import Mathlib.Data.List.MinMax
import Mathlib.Data.Prod.Lex
import Mathlib.Data.String.Basic
import LifecycleProfiler.General.KeyOrder
import LifecycleProfiler.Protocol.Identifiers
import LifecycleProfiler.Python.Builtins
import LifecycleProfiler.Python.Mapping

/-! # Conversations of a message tree

`_tree_candidates` and `_best_candidate` of `oasst1_workload`: a message tree
is visited from its root along messages that are eligible, every prompter
message with an id closes a candidate, and the longest candidate is taken.
`frames` is how many nested visits the interpreter's stack holds. -/

namespace LifecycleProfiler.Workload
open Python Protocol General

structure ChatMessage where
  role : String
  content : String
  deriving DecidableEq, Repr

structure Candidate where
  messageTreeId : String
  sourceMessageId : String
  promptCharCount : Nat
  messages : List ChatMessage
  deriving DecidableEq, Repr

/-- What `str.strip` removes. -/
def isSpace (c : Char) : Bool :=
  let n := c.toNat
  (9 ≤ n && n ≤ 13) || (28 ≤ n && n ≤ 32) || (8192 ≤ n && n ≤ 8202) ||
    [133, 160, 5760, 8232, 8233, 8239, 8287, 12288].contains n

/-- `_label_is_safe` -/
def labelIsSafe (message : Dict) (labelName : String) : Bool :=
  match message.get "labels" with
  | .dict labels =>
    match labels.lookup labelName with
    | none => true
    | some (.dict label) => (Dict.get label "value").num? == some 0
    | some _ => false
  | _ => true

/-- `isinstance(text, str) and bool(text.strip())` -/
def isNonblank : Value → Bool
  | .str text => text.toList.any fun c => !isSpace c
  | _ => false

def isFalse : Value → Bool
  | .bool false => true
  | _ => false

/-- `_message_is_eligible`, which looks the role up in a set first. -/
def messageIsEligible (message : Dict) : Except PyError Bool := do
  let known ← inSet (message.get "role") ["prompter", "assistant"]
  return known && message.has "lang" "en" && isFalse (message.get "synthetic") &&
    isFalse (message.get "deleted") && !isFalse (message.get "review_result") &&
    isNonblank (message.get "text") && labelIsSafe message "pii" &&
    labelIsSafe message "not_appropriate"

def toChatMessage (message : Dict) : ChatMessage :=
  ⟨if message.has "role" "prompter" then "user" else "assistant", formatted (message.get "text")⟩

/-- `message.get("replies", [])`, of which the mappings are visited. -/
def repliesOf (message : Dict) : List Dict :=
  match message.lookup "replies" with
  | some (.list replies) => replies.filterMap asDict
  | _ => []

theorem sizeOf_of_mem_repliesOf {message reply : Dict} (h : reply ∈ repliesOf message) :
    sizeOf reply < sizeOf message := by
  unfold repliesOf at h
  split at h
  · next replies hreplies =>
    obtain ⟨value, hvalue, hreply⟩ := List.mem_filterMap.mp h
    cases value with
    | dict fields =>
      cases hreply
      have hlist := List.sizeOf_lt_of_mem hvalue
      have hitem := List.sizeOf_lt_of_mem (Mapping.mem_of_get hreplies)
      simp only [Prod.mk.sizeOf_spec, Value.list.sizeOf_spec, Value.dict.sizeOf_spec] at hlist hitem
      omega
    | _ => cases hreply
  · cases h

theorem message_induction {motive : Dict → Prop}
    (step : ∀ message, (∀ reply ∈ repliesOf message, motive reply) → motive message)
    (message : Dict) : motive message :=
  step message fun reply _ => message_induction step reply
termination_by sizeOf message
decreasing_by exact sizeOf_of_mem_repliesOf ‹_›

/-- `len("\n".join(item.content for item in path))` -/
def promptChars (path : List ChatMessage) : Nat :=
  ("\n".intercalate (path.map ChatMessage.content)).length

/-- The candidate a message closes, at the end of its path. -/
def candidateOf (treeId : String) (message : Dict) (path : List ChatMessage) : Option Candidate :=
  if message.has "role" "prompter" then
    match message.get "message_id" with
    | .str messageId => some ⟨treeId, messageId, promptChars path, path⟩
    | _ => none
  else none

/-- `path_is_eligible and _message_is_eligible(message)` -/
def eligibleOn (pathIsEligible : Bool) (message : Dict) : Except PyError Bool :=
  if pathIsEligible then messageIsEligible message else .ok false

def recursionError : PyError := .overflowError "maximum recursion depth exceeded"

def visit (treeId : String) : Nat → Dict → List ChatMessage → Bool →
    Except PyError (List Candidate)
  | 0, _, _, _ => .error recursionError
  | frames + 1, message, path, pathIsEligible => do
    let eligible ← eligibleOn pathIsEligible message
    let currentPath := if eligible then path ++ [toChatMessage message] else path
    let own := if eligible then (candidateOf treeId message currentPath).toList else []
    let below ← (repliesOf message).mapM fun reply =>
      visit treeId frames reply currentPath eligible
    return own ++ below.flatten

/-- `list(_tree_candidates(tree))` -/
def treeCandidates (frames : Nat) (tree : Dict) : Except PyError (List Candidate) :=
  if tree.has "tree_state" "ready_for_export" then
    match tree.get "message_tree_id", tree.get "prompt" with
    | .str treeId, .dict root => visit treeId frames root [] true
    | _, _ => .ok []
  else .ok []

/-- The order of the prompt lengths, so that a best candidate computes. -/
local instance lengthOrder : Preorder ℤ := Int.instLinearOrder.toPreorder

/-- `(-item.prompt_char_count, item.source_message_id)` -/
def candidateKey (c : Candidate) : ℤ ×ₗ String := toLex (-(c.promptCharCount : ℤ), c.sourceMessageId)

def bestCandidate (frames : Nat) (tree : Dict) : Except PyError (Option Candidate) := do
  let candidates ← treeCandidates frames tree
  return candidates.argmin candidateKey

/-! ## The messages of a tree -/

/-- The paths from a message down to every message below it, in the order of
the visit. -/
def rootPaths (message : Dict) : List (List Dict) :=
  [message] ::
    (repliesOf message).attach.flatMap fun reply => (rootPaths reply.1).map (message :: ·)
termination_by sizeOf message
decreasing_by exact sizeOf_of_mem_repliesOf reply.2

theorem rootPaths_eq (message : Dict) : rootPaths message =
    [message] :: (repliesOf message).flatMap fun reply =>
      (rootPaths reply).map (message :: ·) := by
  rw [rootPaths, List.flatMap_subtype (g := fun reply => (rootPaths reply).map (message :: ·))
    fun _ _ => rfl, List.unattach_attach]

/-- A path of replies that starts at a message. -/
inductive IsPath : Dict → List Dict → Prop where
  | here (message : Dict) : IsPath message [message]
  | reply {message reply : Dict} {path : List Dict} (hreply : reply ∈ repliesOf message)
      (hpath : IsPath reply path) : IsPath message (message :: path)

theorem mem_rootPaths {message : Dict} {path : List Dict} :
    path ∈ rootPaths message ↔ IsPath message path := by
  induction message using message_induction generalizing path with
  | step message ih =>
    rw [rootPaths_eq, List.mem_cons, List.mem_flatMap]
    constructor
    · rintro (rfl | ⟨reply, hreply, hmem⟩)
      · exact .here message
      · obtain ⟨rest, hrest, rfl⟩ := List.mem_map.mp hmem
        exact .reply hreply ((ih reply hreply).mp hrest)
    · intro h
      cases h with
      | here => exact .inl rfl
      | reply hreply hpath =>
        exact .inr ⟨_, hreply, List.mem_map_of_mem ((ih _ hreply).mpr hpath)⟩

theorem rootPaths_ne_nil {message : Dict} {path : List Dict} (h : path ∈ rootPaths message) :
    path ≠ [] := by
  rw [mem_rootPaths] at h
  cases h <;> exact List.cons_ne_nil _ _

/-! ## What the visit yields -/

def isEligible (message : Dict) : Bool :=
  match messageIsEligible message with
  | .ok eligible => eligible
  | .error _ => false

/-- Eligibility can be asked of a message whose role a set can look up. -/
theorem messageIsEligible_eq_ok {message : Dict} {eligible : Bool} :
    messageIsEligible message = .ok eligible ↔
      (message.get "role").hashable = true ∧ eligible = isEligible message := by
  unfold isEligible
  cases h : messageIsEligible message with
  | ok b =>
    have hrole : (message.get "role").hashable = true := by
      rw [messageIsEligible, bind_eq_ok] at h
      obtain ⟨known, hknown, -⟩ := h
      exact (inSet_eq_ok.mp hknown).1
    simp [hrole, eq_comm]
  | error e =>
    have hrole : (message.get "role").hashable = false := by
      rw [← Bool.not_eq_true]
      intro hhash
      rw [messageIsEligible, inSet, if_pos hhash] at h
      cases h
    simp [hrole]

/-- The candidate of a path from the root: every message on it is eligible,
and the last one is a prompter's with an id. -/
def candidateAt (treeId : String) (before : List ChatMessage) (path : List Dict) :
    Option Candidate :=
  if path.all isEligible then
    path.getLast?.bind fun message =>
      candidateOf treeId message (before ++ path.map toChatMessage)
  else none

/-- The candidates of a message and those below it, after a given path. -/
def candidatesFrom (treeId : String) (before : List ChatMessage) (message : Dict) :
    List Candidate :=
  (rootPaths message).filterMap (candidateAt treeId before)

theorem candidateAt_cons {treeId : String} {before : List ChatMessage} {message : Dict}
    {path : List Dict} (hne : path ≠ []) :
    candidateAt treeId before (message :: path) =
      if isEligible message then candidateAt treeId (before ++ [toChatMessage message]) path
      else none := by
  unfold candidateAt
  rw [List.all_cons, List.getLast?_cons_of_ne_nil hne, List.map_cons, List.append_assoc,
    List.singleton_append]
  cases isEligible message <;> simp

/-- The candidates follow the replies down. -/
theorem candidatesFrom_eq (treeId : String) (before : List ChatMessage) (message : Dict) :
    candidatesFrom treeId before message =
      if isEligible message then
        (candidateOf treeId message (before ++ [toChatMessage message])).toList ++
          (repliesOf message).flatMap
            (candidatesFrom treeId (before ++ [toChatMessage message]))
      else [] := by
  have hbelow : ∀ reply : Dict, ((rootPaths reply).map (message :: ·)).filterMap
      (candidateAt treeId before) = if isEligible message then
        candidatesFrom treeId (before ++ [toChatMessage message]) reply else [] := by
    intro reply
    rw [List.filterMap_map]
    have hpaths : ∀ path ∈ rootPaths reply, (candidateAt treeId before ∘ (message :: ·)) path =
        if isEligible message then
          candidateAt treeId (before ++ [toChatMessage message]) path else none :=
      fun path hpath => candidateAt_cons (rootPaths_ne_nil hpath)
    rw [List.filterMap_congr hpaths]
    cases isEligible message <;> simp [candidatesFrom]
  have hown : candidateAt treeId before [message] = if isEligible message then
      candidateOf treeId message (before ++ [toChatMessage message]) else none := by
    simp [candidateAt]
  rw [candidatesFrom, rootPaths_eq, List.filterMap_cons, List.filterMap_flatMap, hown]
  simp only [hbelow]
  cases isEligible message with
  | false => simp
  | true => cases candidateOf treeId message (before ++ [toChatMessage message]) <;> simp

/-- Every message whose ancestors are all eligible has a role that a set can
look up: no list and no mapping. -/
def RolesHashable (root : Dict) : Prop :=
  ∀ path ∈ rootPaths root, path.dropLast.all isEligible = true →
    ∀ message ∈ path.getLast?, (message.get "role").hashable = true

theorem rolesHashable_iff {message : Dict} :
    RolesHashable message ↔ (message.get "role").hashable = true ∧
      (isEligible message = true → ∀ reply ∈ repliesOf message, RolesHashable reply) := by
  unfold RolesHashable
  rw [rootPaths_eq, List.forall_mem_cons]
  refine and_congr (by simp) ?_
  simp only [List.forall_mem_flatMap, List.forall_mem_map]
  constructor
  · intro h heligible reply hreply path hpath hall last hlast
    have hne := rootPaths_ne_nil hpath
    refine h reply hreply path hpath ?_ last ?_
    · rw [List.dropLast_cons_of_ne_nil hne, List.all_cons, heligible, hall, Bool.and_self]
    · rwa [List.getLast?_cons_of_ne_nil hne]
  · intro h reply hreply path hpath hall last hlast
    have hne := rootPaths_ne_nil hpath
    rw [List.dropLast_cons_of_ne_nil hne, List.all_cons, Bool.and_eq_true] at hall
    rw [List.getLast?_cons_of_ne_nil hne] at hlast
    exact h hall.1 reply hreply path hpath hall.2 last hlast

/-- No path is longer than the stack holds visits. -/
def Fits (frames : Nat) (root : Dict) : Prop :=
  ∀ path ∈ rootPaths root, path.length ≤ frames

theorem not_fits_zero (message : Dict) : ¬ Fits 0 message := by
  intro h
  have hroot := h [message] (by rw [rootPaths_eq]; exact List.mem_cons_self)
  exact absurd hroot (by simp)

theorem fits_succ {frames : Nat} {message : Dict} :
    Fits (frames + 1) message ↔ ∀ reply ∈ repliesOf message, Fits frames reply := by
  unfold Fits
  rw [rootPaths_eq, List.forall_mem_cons, and_iff_right (by simp)]
  simp only [List.forall_mem_flatMap, List.forall_mem_map, List.length_cons,
    Nat.add_le_add_iff_right]

/-- Below an ineligible message nothing is asked and nothing is yielded. -/
theorem visit_ineligible {treeId : String} {frames : Nat} {message : Dict}
    {path : List ChatMessage} {candidates : List Candidate} :
    visit treeId frames message path false = .ok candidates ↔
      Fits frames message ∧ candidates = [] := by
  induction frames generalizing message path candidates with
  | zero => simp [visit, not_fits_zero]
  | succ frames ih =>
    have hreplies : ∀ lists, (repliesOf message).mapM (fun reply =>
        visit treeId frames reply path false) = .ok lists ↔
          (∀ reply ∈ repliesOf message, Fits frames reply) ∧
            lists = (repliesOf message).map fun _ => [] :=
      fun lists => mapM_eq_ok fun reply _ _ => ih
    rw [visit, fits_succ]
    simp only [eligibleOn, Bool.false_eq_true, if_false, ok_bind, bind_eq_ok, hreplies,
      pure_eq_ok, List.nil_append]
    constructor
    · rintro ⟨_, ⟨hfits, rfl⟩, rfl⟩
      exact ⟨hfits, by simp⟩
    · rintro ⟨hfits, rfl⟩
      exact ⟨_, ⟨hfits, rfl⟩, by simp⟩

/-- **The visit of a message whose ancestors are eligible.** -/
theorem visit_eq_ok {treeId : String} {frames : Nat} {message : Dict} {path : List ChatMessage}
    {candidates : List Candidate} : visit treeId frames message path true = .ok candidates ↔
      (RolesHashable message ∧ Fits frames message) ∧
        candidates = candidatesFrom treeId path message := by
  induction frames generalizing message path candidates with
  | zero => simp [visit, not_fits_zero]
  | succ frames ih =>
    have hreplies : ∀ path lists, (repliesOf message).mapM (fun reply =>
        visit treeId frames reply path true) = .ok lists ↔ (∀ reply ∈ repliesOf message,
          RolesHashable reply ∧ Fits frames reply) ∧
            lists = (repliesOf message).map (candidatesFrom treeId path) :=
      fun path lists => mapM_eq_ok fun reply _ _ => ih
    have hnone : ∀ path lists, (repliesOf message).mapM (fun reply =>
        visit treeId frames reply path false) = .ok lists ↔
          (∀ reply ∈ repliesOf message, Fits frames reply) ∧
            lists = (repliesOf message).map fun _ => [] :=
      fun path lists => mapM_eq_ok fun reply _ _ => visit_ineligible
    rw [visit, rolesHashable_iff, fits_succ, candidatesFrom_eq, bind_eq_ok]
    simp only [eligibleOn, if_true, messageIsEligible_eq_ok]
    cases heligible : isEligible message with
    | false =>
      constructor
      · rintro ⟨eligible, ⟨hrole, rfl⟩, h⟩
        simp only [Bool.false_eq_true, if_false, bind_eq_ok, hnone, pure_eq_ok] at h
        obtain ⟨_, ⟨hfits, rfl⟩, rfl⟩ := h
        exact ⟨⟨⟨hrole, by simp⟩, hfits⟩, by simp⟩
      · rintro ⟨⟨⟨hrole, -⟩, hfits⟩, rfl⟩
        refine ⟨false, ⟨hrole, rfl⟩, ?_⟩
        simp only [Bool.false_eq_true, if_false, bind_eq_ok, hnone, pure_eq_ok]
        exact ⟨_, ⟨hfits, rfl⟩, by simp⟩
    | true =>
      constructor
      · rintro ⟨eligible, ⟨hrole, rfl⟩, h⟩
        simp only [if_true, bind_eq_ok, hreplies, pure_eq_ok] at h
        obtain ⟨_, ⟨hbelow, rfl⟩, rfl⟩ := h
        exact ⟨⟨⟨hrole, fun _ reply hreply => (hbelow reply hreply).1⟩,
          fun reply hreply => (hbelow reply hreply).2⟩, by rw [if_pos rfl, List.flatMap_def]⟩
      · rintro ⟨⟨⟨hrole, hbelow⟩, hfits⟩, rfl⟩
        refine ⟨true, ⟨hrole, rfl⟩, ?_⟩
        simp only [if_true, bind_eq_ok, hreplies, pure_eq_ok]
        exact ⟨_, ⟨fun reply hreply => ⟨hbelow rfl reply hreply, hfits reply hreply⟩, rfl⟩,
          by rw [List.flatMap_def]⟩

/-! ## The order of the replies -/

/-- Equal but for their replies. -/
def SameMessage (message other : Dict) : Prop :=
  ∀ key, key ≠ "replies" → other.lookup key = message.lookup key

/-- Trees that differ in the order of replies, at any messages. -/
inductive Reordered : Dict → Dict → Prop where
  | refl (message : Dict) : Reordered message message
  | replies {message other : Dict} {values others : List Value}
      (hmessage : message.lookup "replies" = some (.list values))
      (hother : other.lookup "replies" = some (.list others)) (hperm : others.Perm values)
      (hsame : SameMessage message other) : Reordered message other
  | within {message other reply reply' : Dict} {before after : List Value}
      (hmessage : message.lookup "replies" = some (.list (before ++ .dict reply :: after)))
      (hother : other.lookup "replies" = some (.list (before ++ .dict reply' :: after)))
      (hsame : SameMessage message other) (hreply : Reordered reply reply') :
      Reordered message other
  | trans {a b c : Dict} (hab : Reordered a b) (hbc : Reordered b c) : Reordered a c

theorem SameMessage.get {message other : Dict} (h : SameMessage message other) {key : String}
    (hne : key ≠ "replies") : other.get key = message.get key := by
  unfold Dict.get
  rw [h key hne]

theorem SameMessage.eligible {message other : Dict} (h : SameMessage message other) :
    isEligible other = isEligible message := by
  unfold isEligible messageIsEligible labelIsSafe Dict.has
  simp [h.get]

theorem SameMessage.chat {message other : Dict} (h : SameMessage message other) :
    toChatMessage other = toChatMessage message := by
  unfold toChatMessage Dict.has
  simp [h.get]

theorem SameMessage.candidate {message other : Dict} (h : SameMessage message other)
    (treeId : String) (path : List ChatMessage) :
    candidateOf treeId other path = candidateOf treeId message path := by
  unfold candidateOf Dict.has
  simp [h.get]

theorem repliesOf_list {message : Dict} {values : List Value}
    (h : message.lookup "replies" = some (.list values)) :
    repliesOf message = values.filterMap asDict := by
  unfold repliesOf
  rw [h]

theorem repliesOf_split {message reply : Dict} {before after : List Value}
    (h : message.lookup "replies" = some (.list (before ++ .dict reply :: after))) :
    ∃ left right, repliesOf message = left ++ reply :: right ∧
      ∀ {other reply' : Dict}, other.lookup "replies" =
        some (.list (before ++ .dict reply' :: after)) → repliesOf other = left ++ reply' :: right := by
  refine ⟨before.filterMap asDict, after.filterMap asDict, ?_, fun hother => ?_⟩
  · rw [repliesOf_list h, List.filterMap_append, List.filterMap_cons, asDict]
  · rw [repliesOf_list hother, List.filterMap_append, List.filterMap_cons, asDict]

/-- What is yielded, but for its order, does not depend on the order of replies. -/
theorem Reordered.candidates {message other : Dict} (h : Reordered message other)
    (treeId : String) (before : List ChatMessage) :
    (candidatesFrom treeId before other).Perm (candidatesFrom treeId before message) := by
  induction h generalizing before with
  | refl => exact List.Perm.refl _
  | replies hmessage hother hperm hsame =>
    rw [candidatesFrom_eq, candidatesFrom_eq treeId before, hsame.eligible, hsame.chat,
      hsame.candidate, repliesOf_list hmessage, repliesOf_list hother]
    split
    · exact ((hperm.filterMap _).flatMap_right _).append_left _
    · exact List.Perm.refl _
  | within hmessage hother hsame _ ih =>
    obtain ⟨left, right, hreplies, hothers⟩ := repliesOf_split hmessage
    rw [candidatesFrom_eq, candidatesFrom_eq treeId before, hsame.eligible, hsame.chat,
      hsame.candidate, hreplies, hothers hother]
    split
    · rw [List.flatMap_append, List.flatMap_append, List.flatMap_cons, List.flatMap_cons]
      exact (((ih _).append_right _).append_left _).append_left _
    · exact List.Perm.refl _
  | trans _ _ ihab ihbc => exact (ihbc before).trans (ihab before)

theorem Reordered.rolesHashable {message other : Dict} (h : Reordered message other)
    (hroles : RolesHashable message) : RolesHashable other := by
  induction h with
  | refl => exact hroles
  | replies hmessage hother hperm hsame =>
    rw [rolesHashable_iff] at hroles ⊢
    rw [hsame.get (by decide), hsame.eligible]
    refine ⟨hroles.1, fun heligible reply hreply => hroles.2 heligible reply ?_⟩
    rw [repliesOf_list hother] at hreply
    rw [repliesOf_list hmessage]
    exact (hperm.filterMap _).mem_iff.mp hreply
  | within hmessage hother hsame _ ih =>
    obtain ⟨left, right, hreplies, hothers⟩ := repliesOf_split hmessage
    rw [rolesHashable_iff, hreplies] at hroles
    rw [rolesHashable_iff, hothers hother, hsame.get (by decide), hsame.eligible]
    refine ⟨hroles.1, fun heligible reply hreply => ?_⟩
    have hall := hroles.2 heligible
    rcases List.mem_append.mp hreply with hleft | hright
    · exact hall reply (List.mem_append_left _ hleft)
    · rcases List.mem_cons.mp hright with rfl | hright
      · exact ih (hall _ (by simp))
      · exact hall reply (by simp [hright])
  | trans _ _ ihab ihbc => exact ihbc (ihab hroles)

theorem Reordered.fits {message other : Dict} (h : Reordered message other) {frames : Nat}
    (hfits : Fits frames message) : Fits frames other := by
  cases frames with
  | zero => exact absurd hfits (not_fits_zero message)
  | succ frames =>
    induction h generalizing frames with
    | refl => exact hfits
    | replies hmessage hother hperm _ =>
      rw [fits_succ, repliesOf_list hmessage] at hfits
      rw [fits_succ, repliesOf_list hother]
      exact fun reply hreply => hfits reply ((hperm.filterMap _).mem_iff.mp hreply)
    | within hmessage hother _ _ ih =>
      obtain ⟨left, right, hreplies, hothers⟩ := repliesOf_split hmessage
      rw [fits_succ, hreplies] at hfits
      rw [fits_succ, hothers hother]
      intro reply hreply
      rcases List.mem_append.mp hreply with hleft | hright
      · exact hfits reply (List.mem_append_left _ hleft)
      · rcases List.mem_cons.mp hright with rfl | hright
        · have hinner := hfits _ (List.mem_append_right left List.mem_cons_self)
          cases frames with
          | zero => exact absurd hinner (not_fits_zero _)
          | succ frames => exact ih frames hinner
        · exact hfits reply (by simp [hright])
    | trans _ _ ihab ihbc => exact ihbc frames (ihab frames hfits)

/-! ## The best candidate -/

/-- The ids of the messages of a tree are pairwise different. -/
def DistinctIds (root : Dict) : Prop :=
  ((rootPaths root).filterMap fun path => path.getLast?.bind fun message =>
    match message.get "message_id" with
    | .str messageId => some messageId
    | _ => none).Nodup

theorem filterMap_map_sublist {α β γ : Type} {f : α → Option β} {g : α → Option γ} {k : β → γ}
    (h : ∀ x y, f x = some y → g x = some (k y)) (xs : List α) :
    ((xs.filterMap f).map k).Sublist (xs.filterMap g) := by
  induction xs with
  | nil => exact List.Sublist.refl _
  | cons x xs ih =>
    rw [List.filterMap_cons, List.filterMap_cons]
    cases hf : f x with
    | none =>
      cases g x with
      | none => exact ih
      | some z => exact ih.cons z
    | some y =>
      rw [h x y hf]
      exact ih.cons_cons (k y)

theorem candidateIds_nodup {root : Dict} (h : DistinctIds root) (treeId : String)
    (before : List ChatMessage) :
    ((candidatesFrom treeId before root).map Candidate.sourceMessageId).Nodup := by
  refine List.Nodup.sublist (filterMap_map_sublist (fun path c hc => ?_) (rootPaths root)) h
  unfold candidateAt at hc
  split at hc
  · obtain ⟨message, hlast, hc⟩ := Option.bind_eq_some_iff.mp hc
    rw [hlast, Option.bind_some]
    unfold candidateOf at hc
    split at hc
    · split at hc
      · next messageId hid =>
        rw [← Option.some.inj hc]
      · cases hc
    · cases hc
  · cases hc

theorem candidateKey_le {a b : Candidate} (h : candidateKey a ≤ candidateKey b) :
    b.promptCharCount ≤ a.promptCharCount ∧ (b.promptCharCount = a.promptCharCount →
      a.sourceMessageId ≤ b.sourceMessageId) := by
  unfold candidateKey at h
  rw [Prod.Lex.toLex_le_toLex] at h
  rcases h with hlt | ⟨heq, hle⟩
  · dsimp only at hlt
    exact ⟨by omega, fun heq => by omega⟩
  · dsimp only at heq
    exact ⟨by omega, fun _ => hle⟩

theorem candidateKey_injective {candidates : List Candidate}
    (h : (candidates.map Candidate.sourceMessageId).Nodup) :
    ∀ a ∈ candidates, ∀ b ∈ candidates, candidateKey a = candidateKey b → a = b := by
  intro a ha b hb heq
  exact List.inj_on_of_nodup_map h ha hb (congrArg (fun key => (ofLex key).2) heq)

/-- What is promised of a tree with a root: the candidates are those of its
paths, and the best one is a longest with the least id, however the replies
are ordered. -/
structure Extracts (frames : Nat) (tree : Dict) (treeId : String) (root : Dict) : Prop where
  candidates : treeCandidates frames tree = .ok (candidatesFrom treeId [] root)
  best : ∃ best, bestCandidate frames tree = .ok best ∧
    (best = none ↔ candidatesFrom treeId [] root = []) ∧
    ∀ b, best = some b → b ∈ candidatesFrom treeId [] root ∧
      ∀ c ∈ candidatesFrom treeId [] root, c.promptCharCount ≤ b.promptCharCount ∧
        (c.promptCharCount = b.promptCharCount → b.sourceMessageId ≤ c.sourceMessageId)
  reordered : DistinctIds root → ∀ tree' root', tree'.get "tree_state" = tree.get "tree_state" →
    tree'.get "message_tree_id" = tree.get "message_tree_id" →
    tree'.get "prompt" = .dict root' → Reordered root root' →
    bestCandidate frames tree' = bestCandidate frames tree

theorem treeCandidates_eq {frames : Nat} {tree root : Dict} {treeId : String}
    (hstate : tree.get "tree_state" = .str "ready_for_export")
    (hid : tree.get "message_tree_id" = .str treeId) (hroot : tree.get "prompt" = .dict root) :
    treeCandidates frames tree = visit treeId frames root [] true := by
  unfold treeCandidates
  rw [if_pos (Dict.has_iff.mpr hstate), hid, hroot]

/-- **Extraction is exact exactly when every role that is looked up can be and
no path is longer than the stack.** -/
theorem extraction_exact_iff {frames : Nat} {tree root : Dict} {treeId : String}
    (hstate : tree.get "tree_state" = .str "ready_for_export")
    (hid : tree.get "message_tree_id" = .str treeId) (hroot : tree.get "prompt" = .dict root) :
    Extracts frames tree treeId root ↔ RolesHashable root ∧ Fits frames root := by
  have htree : treeCandidates frames tree = visit treeId frames root [] true :=
    treeCandidates_eq hstate hid hroot
  constructor
  · intro h
    have hvisit := h.candidates
    rw [htree] at hvisit
    exact (visit_eq_ok.mp hvisit).1
  · intro h
    have hcandidates : treeCandidates frames tree = .ok (candidatesFrom treeId [] root) := by
      rw [htree]
      exact visit_eq_ok.mpr ⟨h, rfl⟩
    have hbest : bestCandidate frames tree =
        .ok ((candidatesFrom treeId [] root).argmin candidateKey) := by
      rw [bestCandidate, hcandidates, ok_bind]
      rfl
    refine ⟨hcandidates, ⟨_, hbest, List.argmin_eq_none, fun b hb => ⟨List.argmin_mem hb,
      fun c hc => candidateKey_le (List.le_of_mem_argmin hc hb)⟩⟩, ?_⟩
    intro hids tree' root' hstate' hid' hroot' hreordered
    have htree' : treeCandidates frames tree' = visit treeId frames root' [] true :=
      treeCandidates_eq (hstate'.trans hstate) (hid'.trans hid) hroot'
    have hcandidates' := visit_eq_ok.mpr
      ⟨⟨hreordered.rolesHashable h.1, hreordered.fits h.2⟩,
        (rfl : candidatesFrom treeId [] root' = _)⟩
    rw [hbest, bestCandidate, htree', hcandidates', ok_bind, pure_eq_ok]
    exact argmin_congr _ (hreordered.candidates treeId [])
      (candidateKey_injective (candidateIds_nodup hids treeId []))

namespace Sample

/-- An English message that passes its review. -/
def message (role : Value) (messageId text : String) (replies : List Value) : Dict :=
  [("message_id", .str messageId), ("role", role), ("lang", .str "en"),
    ("synthetic", .bool false), ("deleted", .bool false), ("review_result", .bool true),
    ("text", .str text), ("replies", .list replies)]

def root : Dict :=
  message (.str "prompter") "m0" "hello"
    [.dict (message (.str "assistant") "m1" "hi" [.dict (message (.str "prompter") "m2" "why" [])]),
      .str "not a reply"]

def treeOf (root : Dict) : Dict :=
  [("tree_state", .str "ready_for_export"), ("message_tree_id", .str "t0"), ("prompt", .dict root)]

end Sample

/-- Two prompter messages of a tree close a candidate each. -/
theorem extraction_exact_iff_sample : Extracts 3 (Sample.treeOf Sample.root) "t0" Sample.root := by
  have hvisit : visit "t0" 3 Sample.root [] true =
      .ok [⟨"t0", "m0", 5, [⟨"user", "hello"⟩]⟩,
        ⟨"t0", "m2", 12, [⟨"user", "hello"⟩, ⟨"assistant", "hi"⟩, ⟨"user", "why"⟩]⟩] := by
    decide +kernel
  exact (extraction_exact_iff rfl rfl rfl).mpr (visit_eq_ok.mp hvisit).1

/-- The role of the root is a list. -/
theorem extraction_not_exact : ¬ ∀ (frames : Nat) (tree root : Dict) (treeId : String),
    tree.get "tree_state" = .str "ready_for_export" → tree.get "message_tree_id" = .str treeId →
    tree.get "prompt" = .dict root → Extracts frames tree treeId root := by
  intro h
  have hcandidates := (h 3 (Sample.treeOf (Sample.message (.list []) "m0" "hello" []))
    (Sample.message (.list []) "m0" "hello" []) "t0" rfl rfl rfl).candidates
  have hvisit : treeCandidates 3 (Sample.treeOf (Sample.message (.list []) "m0" "hello" [])) =
      .error (.typeError "unhashable type") := by decide +kernel
  rw [hvisit] at hcandidates
  cases hcandidates

end LifecycleProfiler.Workload
