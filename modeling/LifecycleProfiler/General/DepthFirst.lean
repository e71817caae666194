import Mathlib.Logic.Relation
import Mathlib.Data.List.Basic
import Mathlib.Data.List.Perm.Subperm

/-! # Depth-first search for a cycle

The search marks the nodes of the current path and the nodes it is done with. It
raises one error at a node of the current path and another one when it is nested
too deeply. The first is raised exactly on cyclic graphs; how deeply the search
of an acyclic graph is nested depends on the order of the successors. -/

namespace LifecycleProfiler.General
open Relation

/-- A loop stops at the first body that raises. -/
theorem foldlM_eq_error {α β ε : Type} {body : β → α → Except ε β} {e : ε} :
    ∀ {xs : List α} {start : β}, xs.foldlM body start = .error e ↔
      ∃ before x after reached, xs = before ++ x :: after ∧
        before.foldlM body start = .ok reached ∧ body reached x = .error e
  | [], start => by simp [pure, Except.pure]
  | x :: xs, start => by
    rw [List.foldlM_cons]
    constructor
    · intro h
      cases hx : body start x with
      | error e' =>
        rw [hx] at h
        obtain rfl : e' = e := Except.error.inj h
        exact ⟨[], x, xs, start, rfl, rfl, hx⟩
      | ok next =>
        rw [hx] at h
        obtain ⟨before, y, after, reached, rfl, hbefore, hy⟩ := foldlM_eq_error.mp h
        refine ⟨x :: before, y, after, reached, rfl, ?_, hy⟩
        rw [List.foldlM_cons, hx]
        exact hbefore
    · rintro ⟨before, y, after, reached, hsplit, hbefore, hy⟩
      cases before with
      | nil =>
        obtain ⟨rfl, rfl⟩ := List.cons.inj hsplit
        obtain rfl : start = reached := Except.ok.inj hbefore
        rw [hy]
        rfl
      | cons z before =>
        obtain ⟨rfl, rfl⟩ := List.cons.inj hsplit
        rw [List.foldlM_cons] at hbefore
        cases hx : body start x with
        | error e' => rw [hx] at hbefore; cases hbefore
        | ok next =>
          rw [hx] at hbefore
          exact foldlM_eq_error.mpr ⟨before, y, after, reached, rfl, hbefore, hy⟩

namespace DepthFirst

section Graph
variable {α : Type} (next : α → List α)

/-- The second node is a successor of the first. -/
def Step (a b : α) : Prop := b ∈ next a

/-- Some node lies on a cycle. -/
def Cyclic : Prop := ∃ a, TransGen (Step next) a a

variable {next} {visiting visited visited' nodes : List α} {a : α}

/-- The nodes the search is done with: their successors are among them, none lies
on a cycle, and none is on the current path. -/
structure Explored (next : α → List α) (visiting visited : List α) : Prop where
  closed : ∀ a ∈ visited, ∀ b ∈ next a, b ∈ visited
  straight : ∀ a ∈ visited, ¬ TransGen (Step next) a a
  apart : ∀ a ∈ visited, a ∉ visiting

/-- What searches from some nodes add. -/
structure Extends (next : α → List α) (visiting nodes visited visited' : List α) : Prop where
  explored : Explored next visiting visited'
  started : ∀ a ∈ nodes, a ∈ visited'
  kept : ∀ a ∈ visited, a ∈ visited'
  found : ∀ b ∈ visited', b ∈ visited ∨ ∃ a ∈ nodes, ReflTransGen (Step next) a b

theorem Explored.nil (visiting : List α) : Explored next visiting [] := ⟨nofun, nofun, nofun⟩

theorem Explored.reached (h : Explored next visiting visited) {b : α} (ha : a ∈ visited)
    (hreach : ReflTransGen (Step next) a b) : b ∈ visited := by
  induction hreach with
  | refl => exact ha
  | tail _ hstep ih => exact h.closed _ ih _ hstep

theorem Explored.enter (h : Explored next visiting visited) (hvisited : a ∉ visited) :
    Explored next (a :: visiting) visited :=
  ⟨h.closed, h.straight, fun b hb hin => by
    rcases List.mem_cons.mp hin with rfl | hin
    · exact hvisited hb
    · exact h.apart b hb hin⟩

theorem Extends.refl (h : Explored next visiting visited) :
    Extends next visiting [] visited visited := ⟨h, nofun, fun _ ha => ha, fun _ hb => .inl hb⟩

theorem Extends.known (h : Explored next visiting visited) (ha : a ∈ visited) :
    Extends next visiting [a] visited visited :=
  ⟨h, fun _ hb => List.mem_singleton.mp hb ▸ ha, fun _ hb => hb, fun _ hb => .inl hb⟩

theorem Extends.cons {visited'' : List α} (h : Extends next visiting [a] visited visited')
    (hrest : Extends next visiting nodes visited' visited'') :
    Extends next visiting (a :: nodes) visited visited'' where
  explored := hrest.explored
  started := List.forall_mem_cons.mpr
    ⟨hrest.kept a (h.started a (List.mem_singleton_self a)), hrest.started⟩
  kept b hb := hrest.kept b (h.kept b hb)
  found := by
    intro b hb
    rcases hrest.found b hb with hb | ⟨c, hc, hreach⟩
    · rcases h.found b hb with hb | ⟨c, hc, hreach⟩
      · exact .inl hb
      · exact .inr ⟨a, List.mem_cons_self, List.mem_singleton.mp hc ▸ hreach⟩
    · exact .inr ⟨c, List.mem_cons_of_mem _ hc, hreach⟩

/-- A node is done with once its successors are: it cannot be reached from them,
since it was on their path. -/
theorem Extends.close (hvisiting : a ∉ visiting)
    (h : Extends next (a :: visiting) (next a) visited visited') :
    Extends next visiting [a] visited (a :: visited') where
  explored := by
    refine ⟨?_, List.forall_mem_cons.mpr ⟨?_, h.explored.straight⟩,
      List.forall_mem_cons.mpr ⟨hvisiting, ?_⟩⟩
    · intro b hb c hc
      rcases List.mem_cons.mp hb with rfl | hb
      · exact List.mem_cons_of_mem _ (h.started c hc)
      · exact List.mem_cons_of_mem _ (h.explored.closed b hb c hc)
    · intro hcycle
      obtain ⟨b, hstep, hreach⟩ := TransGen.head'_iff.mp hcycle
      exact h.explored.apart a (h.explored.reached (h.started b hstep) hreach) List.mem_cons_self
    · exact fun b hb hin => h.explored.apart b hb (List.mem_cons_of_mem _ hin)
  started b hb := List.mem_singleton.mp hb ▸ List.mem_cons_self
  kept b hb := List.mem_cons_of_mem _ (h.kept b hb)
  found := by
    intro b hb
    rcases List.mem_cons.mp hb with rfl | hb
    · exact .inr ⟨b, List.mem_singleton_self b, .refl⟩
    · refine (h.found b hb).imp_right fun ⟨c, hstep, hreach⟩ => ?_
      exact ⟨a, List.mem_singleton_self a, .head hstep hreach⟩

/-- The current path leads to the node and on to its successors. -/
theorem path_step {b : α} (hpath : ∀ c ∈ visiting, TransGen (Step next) c a) (hstep : b ∈ next a) :
    ∀ c ∈ a :: visiting, TransGen (Step next) c b :=
  List.forall_mem_cons.mpr ⟨.single hstep, fun c hc => (hpath c hc).tail hstep⟩

end Graph

/-! ## The search -/

section Search
variable {α ε : Type} [DecidableEq α] (next : α → List α) (cycle deep : ε)

/-- The nodes visited after a search from a node that may be nested `depth` deep. -/
def search : Nat → List α → List α → α → Except ε (List α)
  | 0, _, _, _ => .error deep
  | depth + 1, visiting, visited, a =>
    if visiting.contains a then .error cycle
    else if visited.contains a then .ok visited
    else do
      let visited ← (next a).foldlM (fun visited b => search depth (a :: visiting) visited b)
        visited
      return a :: visited

/-- The nodes visited after searches from some nodes in turn. -/
def searchAll (depth : Nat) (visiting visited nodes : List α) : Except ε (List α) :=
  nodes.foldlM (fun visited a => search next cycle deep depth visiting visited a) visited

variable {next cycle deep} {depth : Nat} {visiting visited visited' nodes : List α} {a : α}

theorem search_of_visiting (h : a ∈ visiting) :
    search next cycle deep (depth + 1) visiting visited a = .error cycle := by
  rw [search, if_pos (List.contains_iff_mem.mpr h)]

theorem search_of_visited (hvisiting : a ∉ visiting) (h : a ∈ visited) :
    search next cycle deep (depth + 1) visiting visited a = .ok visited := by
  rw [search, if_neg fun hin => hvisiting (List.contains_iff_mem.mp hin),
    if_pos (List.contains_iff_mem.mpr h)]

theorem search_of_new (hvisiting : a ∉ visiting) (hvisited : a ∉ visited) :
    search next cycle deep (depth + 1) visiting visited a =
      (searchAll next cycle deep depth (a :: visiting) visited (next a)).map (a :: ·) := by
  rw [search, if_neg fun hin => hvisiting (List.contains_iff_mem.mp hin),
    if_neg fun hin => hvisited (List.contains_iff_mem.mp hin)]
  change (searchAll next cycle deep depth (a :: visiting) visited (next a) >>= _) = _
  cases searchAll next cycle deep depth (a :: visiting) visited (next a) <;> rfl

/-! ## What a search explores -/

theorem extends_of_searchAll
    (hsearch : ∀ visited visited' a, Explored next visiting visited →
      search next cycle deep depth visiting visited a = .ok visited' →
      Extends next visiting [a] visited visited') :
    ∀ {nodes visited}, Explored next visiting visited →
      searchAll next cycle deep depth visiting visited nodes = .ok visited' →
      Extends next visiting nodes visited visited' := by
  intro nodes
  induction nodes with
  | nil =>
    intro visited hexplored h
    obtain rfl : visited = visited' := Except.ok.inj h
    exact .refl hexplored
  | cons a nodes ih =>
    intro visited hexplored h
    rw [searchAll, List.foldlM_cons] at h
    cases ha : search next cycle deep depth visiting visited a with
    | error e => rw [ha] at h; cases h
    | ok reached =>
      rw [ha] at h
      have hfirst := hsearch visited reached a hexplored ha
      exact hfirst.cons (ih hfirst.explored h)

/-- What a search that ends has explored. -/
theorem extends_of_search : ∀ {depth : Nat} {visiting visited visited' : List α} {a : α},
    Explored next visiting visited →
    search next cycle deep depth visiting visited a = .ok visited' →
    Extends next visiting [a] visited visited' := by
  intro depth
  induction depth with
  | zero => exact fun _ h => nomatch h
  | succ depth ih =>
    intro visiting visited visited' a hexplored h
    by_cases hvisiting : a ∈ visiting
    · rw [search_of_visiting hvisiting] at h
      cases h
    by_cases hvisited : a ∈ visited
    · rw [search_of_visited hvisiting hvisited] at h
      exact Except.ok.inj h ▸ .known hexplored hvisited
    rw [search_of_new hvisiting hvisited] at h
    cases hnext : searchAll next cycle deep depth (a :: visiting) visited (next a) with
    | error e => rw [hnext] at h; cases h
    | ok reached =>
      rw [hnext] at h
      exact Except.ok.inj h ▸ .close hvisiting
        (extends_of_searchAll (fun _ _ _ => ih) (hexplored.enter hvisited) hnext)

theorem extends_of_run (hexplored : Explored next visiting visited)
    (h : searchAll next cycle deep depth visiting visited nodes = .ok visited') :
    Extends next visiting nodes visited visited' :=
  extends_of_searchAll (fun _ _ _ => extends_of_search) hexplored h

/-! ## When a search raises -/

theorem search_new_eq_error {e : ε} (hvisiting : a ∉ visiting) (hvisited : a ∉ visited) :
    search next cycle deep (depth + 1) visiting visited a = .error e ↔
      ∃ before b after reached, next a = before ++ b :: after ∧
        searchAll next cycle deep depth (a :: visiting) visited before = .ok reached ∧
        search next cycle deep depth (a :: visiting) reached b = .error e := by
  rw [search_of_new hvisiting hvisited]
  refine Iff.trans ?_ foldlM_eq_error
  change _ ↔ searchAll next cycle deep depth (a :: visiting) visited (next a) = .error e
  cases searchAll next cycle deep depth (a :: visiting) visited (next a) <;> simp [Except.map]

/-- A search raises the first error only at a node that its path has reached. -/
theorem cyclic_of_search {e : ε} : ∀ {depth : Nat} {visiting visited : List α} {a : α},
    (∀ c ∈ visiting, TransGen (Step next) c a) →
    search next cycle deep depth visiting visited a = .error e →
    e = deep ∨ e = cycle ∧ Cyclic next := by
  intro depth
  induction depth with
  | zero => exact fun _ h => .inl (Except.error.inj h).symm
  | succ depth ih =>
    intro visiting visited a hpath h
    by_cases hvisiting : a ∈ visiting
    · rw [search_of_visiting hvisiting] at h
      exact .inr ⟨(Except.error.inj h).symm, a, hpath a hvisiting⟩
    by_cases hvisited : a ∈ visited
    · rw [search_of_visited hvisiting hvisited] at h
      cases h
    obtain ⟨before, b, after, reached, hsplit, -, hb⟩ :=
      (search_new_eq_error hvisiting hvisited).mp h
    exact ih (path_step hpath (hsplit ▸ List.mem_append_right _ List.mem_cons_self)) hb

/-- The path of a search has no node twice, so it is no longer than there are nodes. -/
theorem cycle_of_search {e : ε} (hnodes : ∀ a ∈ nodes, ∀ b ∈ next a, b ∈ nodes) :
    ∀ {depth : Nat} {visiting visited : List α} {a : α}, a ∈ nodes → visiting.Nodup →
      (∀ c ∈ visiting, c ∈ nodes) → nodes.length < depth + visiting.length →
      search next cycle deep depth visiting visited a = .error e → e = cycle := by
  intro depth
  induction depth with
  | zero =>
    intro visiting _ _ _ hnodup hsubset hlength
    have hshort := (List.subperm_of_subset hnodup hsubset).length_le
    omega
  | succ depth ih =>
    intro visiting visited a ha hnodup hsubset hlength h
    by_cases hvisiting : a ∈ visiting
    · rw [search_of_visiting hvisiting] at h
      exact (Except.error.inj h).symm
    by_cases hvisited : a ∈ visited
    · rw [search_of_visited hvisiting hvisited] at h
      cases h
    obtain ⟨before, b, after, reached, hsplit, -, hb⟩ :=
      (search_new_eq_error hvisiting hvisited).mp h
    have hb' : b ∈ nodes := hnodes a ha b (hsplit ▸ List.mem_append_right _ List.mem_cons_self)
    refine ih hb' (List.nodup_cons.mpr ⟨hvisiting, hnodup⟩)
      (List.forall_mem_cons.mpr ⟨ha, hsubset⟩) ?_ hb
    rw [List.length_cons]
    omega

variable (hnodes : ∀ a b, b ∈ next a → a ∈ nodes ∧ b ∈ nodes)
include hnodes

/-- A run over all nodes that ends has found no cycle. -/
theorem not_cyclic_of_run
    (h : searchAll next cycle deep depth [] [] nodes = .ok visited) : ¬ Cyclic next := by
  rintro ⟨a, hcycle⟩
  obtain ⟨b, hstep, -⟩ := TransGen.head'_iff.mp hcycle
  have hrun := extends_of_run (Explored.nil []) h
  exact hrun.explored.straight a (hrun.started a (hnodes a b hstep).1) hcycle

/-- With enough depth, a run over all nodes raises only on a cyclic graph. -/
theorem cyclic_of_run {e : ε} (herrors : cycle ≠ deep) (hdepth : nodes.length < depth)
    (h : searchAll next cycle deep depth [] [] nodes = .error e) : e = cycle ∧ Cyclic next := by
  obtain ⟨before, a, after, reached, hsplit, -, ha⟩ := foldlM_eq_error.mp h
  have hmem : a ∈ nodes := hsplit ▸ List.mem_append_right _ List.mem_cons_self
  have hcycle : e = cycle := cycle_of_search (fun a _ b hb => (hnodes a b hb).2) hmem
    List.nodup_nil nofun hdepth ha
  rcases cyclic_of_search nofun ha with hdeep | hcyclic
  · exact absurd (hcycle.symm.trans hdeep) herrors
  · exact hcyclic

/-- **The search is exact.** With enough depth, a run over all nodes raises its
error exactly on a cyclic graph and ends on every other one. -/
theorem run_exact (herrors : cycle ≠ deep) (hdepth : nodes.length < depth) :
    (searchAll next cycle deep depth [] [] nodes = .error cycle ↔ Cyclic next) ∧
    ((∃ visited, searchAll next cycle deep depth [] [] nodes = .ok visited) ↔ ¬ Cyclic next) := by
  cases h : searchAll next cycle deep depth [] [] nodes with
  | ok visited =>
    have hstraight := not_cyclic_of_run hnodes h
    exact ⟨⟨nofun, fun hcyclic => absurd hcyclic hstraight⟩, fun _ => hstraight, fun _ => ⟨_, rfl⟩⟩
  | error e =>
    obtain ⟨rfl, hcyclic⟩ := cyclic_of_run hnodes herrors hdepth h
    exact ⟨⟨fun _ => hcyclic, fun _ => rfl⟩, nofun, fun hstraight => absurd hcyclic hstraight⟩

omit hnodes

/-! ## How deeply a search is nested -/

/-- A path of calls, each nested in the one before: every node is a successor of
its predecessor, and no node but the last, which may be visited already, can be
reached from a successor listed earlier, of its predecessor or of any node before. -/
inductive Descent (next : α → List α) : List α → Prop
  | single (a : α) : Descent next [a]
  | step {a b : α} {rest : List α} (hstep : b ∈ next a) (hrest : Descent next (b :: rest))
      (hnew : ∀ c ∈ (b :: rest).dropLast, ∀ earlier ∈ (next a).takeWhile (· ≠ b),
        ¬ ReflTransGen (Step next) earlier c) : Descent next (a :: b :: rest)

omit [DecidableEq α] in
theorem mem_of_mem_dropLast_take {l : List α} {n : Nat} {c : α}
    (h : c ∈ (l.take n).dropLast) :
    c ∈ l.dropLast := by
  rw [List.dropLast_eq_take, List.take_take] at h
  rw [List.dropLast_eq_take]
  refine (List.take_subset_take_left l ?_) h
  rw [List.length_take]
  omega

/-- A descent may stop earlier. -/
theorem Descent.take {path : List α} (h : Descent next path) :
    ∀ n, Descent next (path.take (n + 1)) := by
  induction h with
  | single a =>
    intro n
    rw [List.take_succ_cons, List.take_nil]
    exact .single a
  | @step a b rest hstep _ hnew ih =>
    intro n
    cases n with
    | zero => exact .single a
    | succ n =>
      refine .step hstep (ih n) fun c hc => hnew c ?_
      exact mem_of_mem_dropLast_take (n := n + 1) hc

variable (hstraight : ¬ Cyclic next) (herrors : cycle ≠ deep)
include hstraight herrors

end Search

end DepthFirst

end LifecycleProfiler.General
