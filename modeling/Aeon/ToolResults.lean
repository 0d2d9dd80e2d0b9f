import Aeon.PromptEncoder
import Mathlib.Data.List.Forall2
import Mathlib.Data.List.Chain

namespace Aeon.Text

/-!
# Tool results keep their homes

Tool messages become blocks of user messages, and the results of one user message
are ordered by the calls they answer.  A run of adjacent user and tool messages is
one merged message, unless a task closes it, and ordering moves results only onto
places of results.
-/

/-! ## What merging and ordering keep -/

/-- The block a user or tool message becomes. -/
def blockOf (message : PromptMessage) : ContentBlock :=
  match message.role with
  | .tool => .toolResult message.content message.toolCallId
  | _ => .text message.content

/-- The message is a user's or a tool's. -/
def Carries (message : PromptMessage) : Prop :=
  message.role = .user ∨ message.role = .tool

instance (message : PromptMessage) : Decidable (Carries message) :=
  inferInstanceAs (Decidable (_ ∨ _))

/-- The user message a run is merged into, before its blocks. -/
def home (head : PromptMessage) : PromptMessage :=
  if head.role = .user then head else { role := .user }

/-- A message on its own, or the message a run of user and tool messages becomes. -/
inductive MergedFrom : List PromptMessage → PromptMessage → Prop where
  | alone
      (message : PromptMessage)
      (other : ¬ Carries message) :
      MergedFrom [message] message
  | run
      (head : PromptMessage)
      (tail : List PromptMessage)
      (carries : ∀ message ∈ head :: tail, Carries message)
      (undivided : (home head).task ≠ [] → ∀ message ∈ tail, message.role = .tool) :
      MergedFrom (head :: tail)
        { home head with contentBlocks := (head :: tail).map blockOf }

/-- Two user messages are adjacent only behind a task. -/
def Parted (left right : PromptMessage) : Prop :=
  left.role = .user → right.role = .user → left.task ≠ []

/-- The text of a block, if it is one. -/
def textOf : ContentBlock → Option Bytes
  | .text text => some text
  | .toolResult _ _ => none

/-- The id a result answers. -/
def resultId : ContentBlock → Bytes
  | .text _ => []
  | .toolResult _ toolUseId => toolUseId

/-- The calls of the last assistant message that made any. -/
def recentCalls (before : List PromptMessage) : List PromptToolCall :=
  match before.reverse.find? fun message =>
      message.role = .assistant && message.toolCalls ≠ [] with
  | some message => message.toolCalls
  | none => []

/-- The last call with the id is the one at `index`. -/
def LastCall
    (calls : List PromptToolCall)
    (id : Bytes)
    (index : Nat) : Prop :=
  (∃ call, calls[index]? = some call ∧ call.id = id) ∧
    ∀ later call, index < later → calls[later]? = some call → call.id ≠ id

/-- A result is placed by the call it answers, or else with the first call. -/
def Placed
    (counts : Bytes → Prop)
    (calls : List PromptToolCall)
    (id : Bytes)
    (index : Nat) : Prop :=
  counts id ∧ LastCall calls id index ∨
    (∀ index, counts id → ¬ LastCall calls id index) ∧ index = 0

/-- What ordering the blocks of a user message keeps. -/
structure OrdersResults
    (counts : Bytes → Prop)
    (calls : List PromptToolCall)
    (blocks ordered : List ContentBlock) : Prop where
  /-- Text blocks stay where they are. -/
  texts : ordered.map textOf = blocks.map textOf
  /-- No result is lost or made up. -/
  results : (ordered.filter isToolResult).Perm (blocks.filter isToolResult)
  /-- Results that answer calls are in the order of these. -/
  inOrder :
    (ordered.filter isToolResult).Pairwise fun left right =>
      counts (resultId left) → counts (resultId right) →
        ∀ first second,
          LastCall calls (resultId left) first →
            LastCall calls (resultId right) second → first ≤ second
  /-- Results with one place among the calls keep their order. -/
  stable :
    ∀ (index : Nat) (tied : List ContentBlock),
      tied.Sublist (blocks.filter isToolResult) →
        (∀ block ∈ tied, Placed counts calls (resultId block) index) →
          tied.Sublist (ordered.filter isToolResult)

/-- What merging and ordering keep of a conversation. -/
structure KeepsResults
    (counts : Bytes → Prop)
    (messages : List PromptMessage) : Prop where
  /-- Every user and tool message is one block. -/
  contents :
    (((sortToolResults [] (mergeToolMessages messages)).filter fun message =>
        message.role = .user).flatMap PromptMessage.contentBlocks).Perm
      ((messages.filter fun message => Carries message).map blockOf)
  /-- A merged message comes from adjacent messages. -/
  runs :
    ∃ groups, groups.flatten = messages ∧
      List.Forall₂ MergedFrom groups (mergeToolMessages messages)
  /-- Runs are as long as the tasks allow. -/
  parted : (mergeToolMessages messages).IsChain Parted
  /-- The blocks of each user message are ordered, and nothing else is changed. -/
  ordered :
    ∀ before message after,
      mergeToolMessages messages = before ++ message :: after →
        ∃ blocks,
          (sortToolResults [] (mergeToolMessages messages))[before.length]? =
              some { message with contentBlocks := blocks } ∧
            (message.role ≠ .user → blocks = message.contentBlocks) ∧
            (message.role = .user →
              OrdersResults counts (recentCalls before) message.contentBlocks blocks)

/-! ## Runs -/

theorem mergeToolMessages_append
    (messages : List PromptMessage)
    (message : PromptMessage) :
    mergeToolMessages (messages ++ [message]) =
      mergeMessage (mergeToolMessages messages) message := by
  simp [mergeToolMessages]

theorem MergedFrom.blocks_ne_nil
    {group : List PromptMessage}
    {message : PromptMessage}
    (merged : MergedFrom group message)
    (user : message.role = .user) :
    message.contentBlocks ≠ [] := by
  cases merged with
  | alone _ other =>
    exact absurd (Or.inl user) other
  | run head tail _ _ =>
    simp

theorem MergedFrom.extend
    {group : List PromptMessage}
    {last message : PromptMessage}
    (merged : MergedFrom group last)
    (user : last.role = .user)
    (carries : Carries message)
    (undivided : message.role = .user → last.task = []) :
    MergedFrom (group ++ [message])
      { last with contentBlocks := last.contentBlocks ++ [blockOf message] } := by
  cases merged with
  | alone _ other =>
    exact absurd (Or.inl user) other
  | run head tail all closed =>
    have extended :=
      MergedFrom.run head (tail ++ [message])
        (by
          intro other isOther
          rw [← List.cons_append, List.mem_append, List.mem_singleton] at isOther
          rcases isOther with isOther | rfl
          · exact all other isOther
          · exact carries)
        (by
          intro task other isOther
          rw [List.mem_append, List.mem_singleton] at isOther
          rcases isOther with isOther | rfl
          · exact closed task other isOther
          · rcases carries with asked | tool
            · exact absurd (undivided asked) task
            · exact tool)
    simpa using extended

/-- A user or tool message starts a run. -/
theorem MergedFrom.single
    {message : PromptMessage}
    (carries : Carries message) :
    MergedFrom [message] { home message with contentBlocks := [blockOf message] } :=
  .run message [] (by simpa using carries) (by simp)

theorem mergeMessage_cases
    (merged : List PromptMessage)
    (message : PromptMessage) :
    (¬ Carries message ∧ mergeMessage merged message = merged ++ [message]) ∨
      (Carries message ∧
        ((∃ front last, merged = front ++ [last] ∧ last.role = .user ∧
            (message.role = .user → last.task = []) ∧
            mergeMessage merged message =
              front ++ [{ last with
                contentBlocks := last.contentBlocks ++ [blockOf message] }]) ∨
          (mergeMessage merged message =
              merged ++ [{ home message with contentBlocks := [blockOf message] }] ∧
            ∀ last ∈ merged.getLast?, last.role = .user →
              last.contentBlocks ≠ [] → message.role = .user ∧ last.task ≠ []))) := by
  cases role : message.role with
  | system | developer | assistant | latestReminder =>
    exact Or.inl ⟨by simp [Carries, role],
      by simp [mergeMessage, role]⟩
  | tool =>
    refine Or.inr ⟨Or.inr role, ?_⟩
    rcases List.eq_nil_or_concat' merged with rfl | ⟨front, last, rfl⟩
    · exact Or.inr ⟨by simp [mergeMessage, role, home, blockOf], by simp⟩
    · by_cases goesOn : last.role = .user ∧ last.contentBlocks ≠ []
      · exact Or.inl ⟨front, last, by simp, goesOn.1, by simp,
          by simp [mergeMessage, role, blockOf, goesOn]⟩
      · refine Or.inr ⟨by simp [mergeMessage, role, blockOf, home, goesOn], ?_⟩
        simpa using goesOn
  | user =>
    refine Or.inr ⟨Or.inl role, ?_⟩
    rcases List.eq_nil_or_concat' merged with rfl | ⟨front, last, rfl⟩
    · exact Or.inr ⟨by simp [mergeMessage, role, home, blockOf], by simp⟩
    · by_cases goesOn :
          last.role = .user ∧ last.contentBlocks ≠ [] ∧ last.task = []
      · exact Or.inl ⟨front, last, by simp, goesOn.1, fun _ => goesOn.2.2,
          by simp [mergeMessage, role, blockOf, goesOn]⟩
      · refine Or.inr ⟨by simp [mergeMessage, role, blockOf, home, goesOn], ?_⟩
        simpa using goesOn

theorem merged_blocks_ne_nil
    {groups : List (List PromptMessage)}
    {merged : List PromptMessage}
    (runs : List.Forall₂ MergedFrom groups merged) :
    ∀ message ∈ merged, message.role = .user → message.contentBlocks ≠ [] := by
  induction runs with
  | nil => simp
  | @cons group message groups merged first _ ih =>
    rw [List.forall_mem_cons]
    exact ⟨first.blocks_ne_nil, ih⟩

/-- The last merged message comes from the last group. -/
theorem forall₂_concat_right
    {α β : Type}
    {relation : α → β → Prop}
    {lefts : List α}
    {front : List β}
    {last : β}
    (related : List.Forall₂ relation lefts (front ++ [last])) :
    ∃ lefts' left, lefts = lefts' ++ [left] ∧
      List.Forall₂ relation lefts' front ∧ relation left last := by
  have reversed := List.rel_reverse related
  rw [List.reverse_append, List.reverse_singleton, List.singleton_append] at reversed
  obtain ⟨left, rest, isRelated, others, shape⟩ :=
    List.forall₂_cons_right_iff.mp reversed
  refine ⟨rest.reverse, left, ?_, ?_, isRelated⟩
  · rw [← List.reverse_reverse lefts, shape, List.reverse_cons]
  · simpa using List.rel_reverse others

theorem mergeToolMessages_runs
    (messages : List PromptMessage) :
    ∃ groups, groups.flatten = messages ∧
      List.Forall₂ MergedFrom groups (mergeToolMessages messages) ∧
        (mergeToolMessages messages).IsChain Parted := by
  induction messages using List.reverseRecOn with
  | nil =>
    exact ⟨[], rfl, .nil, .nil⟩
  | append_singleton messages message ih =>
    obtain ⟨groups, flat, merged, parted⟩ := ih
    rw [mergeToolMessages_append]
    rcases mergeMessage_cases (mergeToolMessages messages) message with
      ⟨other, round⟩ | ⟨carries, ⟨front, last, shape, user, undivided, round⟩ |
        ⟨round, behind⟩⟩
    · rw [round]
      refine ⟨groups ++ [[message]], by simp [flat],
        List.rel_append merged (.cons (.alone message other) .nil),
        List.IsChain.append parted (.singleton message) ?_⟩
      intro last _ right isRight _ rightUser
      obtain rfl : message = right := by simpa using isRight
      exact absurd (Or.inl rightUser) other
    · rw [shape] at merged parted
      obtain ⟨frontGroups, lastGroup, rfl, fronts, lasts⟩ :=
        forall₂_concat_right merged
      rw [round]
      refine ⟨frontGroups ++ [lastGroup ++ [message]], ?_,
        List.rel_append fronts
          (.cons (lasts.extend user carries undivided) .nil), ?_⟩
      · rw [← flat]
        simp
      · rw [List.isChain_append] at parted ⊢
        refine ⟨parted.1, .singleton _, ?_⟩
        intro left isLeft right isRight
        obtain rfl : _ = right := by simpa using isRight
        exact parted.2.2 left isLeft last (by simp)
    · rw [round]
      refine ⟨groups ++ [[message]], by simp [flat],
        List.rel_append merged (.cons (.single carries) .nil),
        List.IsChain.append parted (.singleton _) ?_⟩
      intro left isLeft right _ leftUser _
      have blocks := merged_blocks_ne_nil merged left
        (List.mem_of_getLast? isLeft) leftUser
      exact (behind left isLeft leftUser blocks).2

theorem mergedFrom_contents
    {groups : List (List PromptMessage)}
    {merged : List PromptMessage}
    (runs : List.Forall₂ MergedFrom groups merged) :
    (merged.filter fun message => message.role = .user).flatMap
        PromptMessage.contentBlocks =
      (groups.flatten.filter fun message => Carries message).map blockOf := by
  induction runs with
  | nil => rfl
  | @cons group message groups merged first _ ih =>
    rw [List.flatten_cons, List.filter_append, List.map_append,
      ← ih]
    cases first with
    | alone _ other =>
      have notUser : message.role ≠ .user := fun user => other (Or.inl user)
      simp [other, notUser]
    | run head tail carries _ =>
      have user : (home head).role = .user := by
        unfold home
        split
        · assumption
        · rfl
      have all : (head :: tail).filter (fun message => Carries message) =
          head :: tail := by
        rw [List.filter_eq_self]
        simpa using carries
      rw [all, List.filter_cons_of_pos (by simpa using user), List.flatMap_cons]

/-! ## The order of calls -/

theorem callOrder_append
    (calls : List PromptToolCall)
    (call : PromptToolCall) :
    callOrder (calls ++ [call]) =
      if call.id = [] then callOrder calls
      else (call.id, calls.length) :: callOrder calls := by
  simp [callOrder, List.zipIdx_append]

theorem lastCall_append
    {calls : List PromptToolCall}
    {call : PromptToolCall}
    {id : Bytes}
    {index : Nat} :
    LastCall (calls ++ [call]) id index ↔
      if call.id = id then index = calls.length else LastCall calls id index := by
  have there : (calls ++ [call])[calls.length]? = some call := by simp
  have before {place : Nat} (inside : place < calls.length) :
      (calls ++ [call])[place]? = calls[place]? :=
    List.getElem?_append_left inside
  have bound {place : Nat} {found : PromptToolCall}
      (isCall : calls[place]? = some found) : place < calls.length :=
    (List.getElem?_eq_some_iff.mp isCall).1
  have bounds {place : Nat} {found : PromptToolCall}
      (isCall : (calls ++ [call])[place]? = some found) : place ≤ calls.length := by
    have := (List.getElem?_eq_some_iff.mp isCall).1
    rw [List.length_append, List.length_singleton] at this
    omega
  split
  · next named =>
      constructor
      · rintro ⟨⟨found, isCall, -⟩, latest⟩
        by_contra earlier
        exact latest calls.length call (by have := bounds isCall; omega) there named
      · rintro rfl
        refine ⟨⟨call, there, named⟩, fun later found behind isCall => ?_⟩
        have := bounds isCall
        omega
  · next other =>
      constructor
      · rintro ⟨⟨found, isCall, answers⟩, latest⟩
        have inside : index < calls.length := by
          refine lt_of_le_of_ne (bounds isCall) ?_
          rintro rfl
          rw [there, Option.some.injEq] at isCall
          exact other (isCall ▸ answers)
        rw [before inside] at isCall
        exact ⟨⟨found, isCall, answers⟩, fun later laterCall behind isLater =>
          latest later laterCall behind (by rw [before (bound isLater), isLater])⟩
      · rintro ⟨⟨found, isCall, answers⟩, latest⟩
        refine ⟨⟨found, by rw [before (bound isCall), isCall], answers⟩,
          fun later laterCall behind isLater => ?_⟩
        rcases lt_or_eq_of_le (bounds isLater) with inside | rfl
        · rw [before inside] at isLater
          exact latest later laterCall behind isLater
        · rw [there, Option.some.injEq] at isLater
          exact isLater ▸ other

theorem callOrder_lookup
    (calls : List PromptToolCall)
    (id : Bytes)
    (index : Nat) :
    (callOrder calls).lookup id = some index ↔ id ≠ [] ∧ LastCall calls id index := by
  induction calls using List.reverseRecOn with
  | nil =>
    simp [callOrder, LastCall]
  | append_singleton calls call ih =>
    rw [callOrder_append, lastCall_append]
    by_cases named : call.id = id
    · by_cases empty : call.id = []
      · rw [if_pos empty, ih]
        have none : id = [] := named ▸ empty
        simp [none]
      · rw [if_neg empty, if_pos named, named, List.lookup_cons_self,
          Option.some.injEq, eq_comm]
        have some : id ≠ [] := named ▸ empty
        simp [some]
    · rw [if_neg named, ← ih]
      split
      · rfl
      · rw [List.lookup_cons]
        simp [beq_false_of_ne (Ne.symm named)]

theorem resultOrder_eq
    {calls : List PromptToolCall}
    {block : ContentBlock}
    (isResult : isToolResult block = true)
    {index : Nat}
    (placed : Placed (· ≠ []) calls (resultId block) index) :
    resultOrder (callOrder calls) block = index := by
  cases block with
  | text => cases isResult
  | toolResult result id =>
    rcases placed with answered | ⟨unknown, rfl⟩
    · rw [resultOrder, (callOrder_lookup calls id index).mpr answered,
        Option.getD_some]
    · have missing : (callOrder calls).lookup id = none := by
        cases found : (callOrder calls).lookup id with
        | none => rfl
        | some index =>
          obtain ⟨named, last⟩ := (callOrder_lookup calls id index).mp found
          exact absurd last (unknown index named)
      rw [resultOrder, missing, Option.getD_none]

/-! ## The blocks of one message -/

/-- Results go where results were. -/
theorem replaceResults_spec
    (blocks results : List ContentBlock)
    (length : results.length = (blocks.filter isToolResult).length)
    (all : ∀ block ∈ results, isToolResult block = true) :
    (replaceResults blocks results).map textOf = blocks.map textOf ∧
      (replaceResults blocks results).filter isToolResult = results := by
  induction blocks generalizing results with
  | nil =>
    obtain rfl : results = [] := by simpa using length
    exact ⟨rfl, rfl⟩
  | cons block blocks ih =>
    cases block with
    | text text =>
      obtain ⟨texts, kept⟩ := ih results
        (by simpa [isToolResult] using length) all
      rw [replaceResults]
      · exact ⟨by simp [texts], by simp [isToolResult, kept]⟩
      · simp
    | toolResult result id =>
      rw [List.filter_cons_of_pos rfl, List.length_cons] at length
      cases results with
      | nil => cases length
      | cons next results =>
        rw [List.forall_mem_cons] at all
        obtain ⟨texts, kept⟩ := ih results
          (by simpa using length) all.2
        have noText : textOf next = none := by
          cases next with
          | text => cases all.1
          | toolResult => rfl
        rw [replaceResults]
        exact ⟨by rw [List.map_cons, List.map_cons, texts, noText, textOf],
          by rw [List.filter_cons_of_pos all.1, kept]⟩

variable (order : List (Bytes × Nat))

/-- The results of a message in the order of their places. -/
def orderedResults
    (blocks : List ContentBlock) : List ContentBlock :=
  (blocks.filter isToolResult).mergeSort fun left right =>
    resultOrder order left ≤ resultOrder order right

theorem orderedResults_perm
    (blocks : List ContentBlock) :
    (orderedResults order blocks).Perm (blocks.filter isToolResult) :=
  List.mergeSort_perm _ _

theorem sortBlocks_spec
    (blocks : List ContentBlock) :
    (sortBlocks order blocks).map textOf = blocks.map textOf ∧
      ((sortBlocks order blocks).filter isToolResult = orderedResults order blocks ∨
        (order = [] ∨ (blocks.filter isToolResult).length ≤ 1) ∧
          sortBlocks order blocks = blocks) := by
  unfold sortBlocks
  simp only []
  split
  · next few => exact ⟨rfl, Or.inr ⟨few.symm, rfl⟩⟩
  · have perm := orderedResults_perm order blocks
    have spec := replaceResults_spec blocks _ perm.length_eq
      (fun block isBlock => (List.mem_filter.mp (perm.mem_iff.mp isBlock)).2)
    exact ⟨spec.1, Or.inl spec.2⟩

theorem sortBlocks_orders
    (calls : List PromptToolCall)
    (blocks : List ContentBlock) :
    OrdersResults (· ≠ []) calls blocks (sortBlocks (callOrder calls) blocks) := by
  obtain ⟨texts, sorted | ⟨few, same⟩⟩ := sortBlocks_spec (callOrder calls) blocks
  · have perm := orderedResults_perm (callOrder calls) blocks
    have isResult (block : ContentBlock)
        (isBlock : block ∈ orderedResults (callOrder calls) blocks) :
        isToolResult block = true :=
      (List.mem_filter.mp (perm.mem_iff.mp isBlock)).2
    have transitive (first second third : ContentBlock) :
        decide (resultOrder (callOrder calls) first ≤
            resultOrder (callOrder calls) second) = true →
          decide (resultOrder (callOrder calls) second ≤
              resultOrder (callOrder calls) third) = true →
            decide (resultOrder (callOrder calls) first ≤
              resultOrder (callOrder calls) third) = true := by
      simp only [decide_eq_true_eq]
      exact le_trans
    have total (first second : ContentBlock) :
        (decide (resultOrder (callOrder calls) first ≤
            resultOrder (callOrder calls) second) ||
          decide (resultOrder (callOrder calls) second ≤
            resultOrder (callOrder calls) first)) = true := by
      simp only [Bool.or_eq_true, decide_eq_true_eq]
      exact le_total _ _
    refine ⟨texts, sorted ▸ perm, ?_, ?_⟩
    · rw [sorted]
      have increasing :=
        List.pairwise_mergeSort transitive total (blocks.filter isToolResult)
      refine List.Pairwise.imp_of_mem ?_ increasing
      intro left right isLeft isRight before named alsoNamed first second calledFirst
        calledSecond
      rw [decide_eq_true_eq,
        resultOrder_eq (isResult left isLeft) (Or.inl ⟨named, calledFirst⟩),
        resultOrder_eq (isResult right isRight)
          (Or.inl ⟨alsoNamed, calledSecond⟩)] at before
      exact before
    · intro index tied part placed
      rw [sorted]
      refine List.sublist_mergeSort transitive total ?_ part
      rw [List.pairwise_iff_forall_sublist]
      intro left right pair
      have place (block : ContentBlock) (isBlock : block ∈ tied) :
          resultOrder (callOrder calls) block = index :=
        resultOrder_eq (List.mem_filter.mp (part.subset isBlock)).2
          (placed block isBlock)
      rw [place left (pair.subset (by simp)), place right (pair.subset (by simp))]
      simp
  · refine ⟨texts, by rw [same], ?_, fun index tied part placed => by rwa [same]⟩
    rw [same]
    rcases few with unordered | one
    · refine List.pairwise_of_forall ?_
      intro left right named _ first second called
      have known := (callOrder_lookup calls (resultId left) first).mpr ⟨named, called⟩
      rw [unordered] at known
      cases known
    · match blocks.filter isToolResult, one with
      | [], _ => exact .nil
      | [block], _ => exact List.pairwise_singleton _ block

theorem sortBlocks_perm
    (blocks : List ContentBlock) :
    (sortBlocks order blocks).Perm blocks := by
  obtain ⟨texts, sorted | ⟨-, same⟩⟩ := sortBlocks_spec order blocks
  · have texts (blocks : List ContentBlock) :
        blocks.filter (fun block => !isToolResult block) =
          (blocks.map textOf).filterMap fun text => text.map ContentBlock.text := by
      induction blocks with
      | nil => rfl
      | cons block rest ih =>
        cases block with
        | text text =>
          rw [List.filter_cons_of_pos (by rfl), ih, List.map_cons,
            textOf, List.filterMap_cons_some (by rfl)]
        | toolResult =>
          rw [List.filter_cons_of_neg (by simp [isToolResult]),
            ih, List.map_cons, textOf,
            List.filterMap_cons_none (by rfl)]
    have split (blocks : List ContentBlock) :=
      List.filter_append_perm isToolResult blocks
    refine (split _).symm.trans (List.Perm.trans ?_ (split blocks))
    rw [sorted, texts, ‹(sortBlocks order blocks).map textOf = _›, ← texts]
    exact (orderedResults_perm order blocks).append_right _
  · rw [same]

/-! ## The whole conversation -/

/-- The order of calls behind some messages. -/
def orderAfter
    (messages : List PromptMessage) : List (Bytes × Nat) :=
  messages.foldl
    (fun order message =>
      if message.role = .assistant ∧ message.toolCalls ≠ [] then
        callOrder message.toolCalls
      else order)
    order

/-- What ordering makes of one message. -/
def orderMessage
    (message : PromptMessage) : PromptMessage :=
  if message.role ≠ .user ∨ message.contentBlocks = [] then message
  else { message with contentBlocks := sortBlocks order message.contentBlocks }

theorem sortToolResults_cons
    (message : PromptMessage)
    (rest : List PromptMessage) :
    sortToolResults order (message :: rest) =
      orderMessage order message ::
        sortToolResults (orderAfter order [message]) rest := by
  rw [sortToolResults, orderAfter, orderMessage, List.foldl_cons, List.foldl_nil]
  by_cases calls : message.role = .assistant ∧ message.toolCalls ≠ []
  · rw [if_pos calls, if_pos calls, if_pos (Or.inl (by simp [calls.1]))]
  · rw [if_neg calls, if_neg calls]
    split <;> rfl

theorem sortToolResults_at
    (before : List PromptMessage)
    (message : PromptMessage)
    (after : List PromptMessage) :
    (sortToolResults order (before ++ message :: after))[before.length]? =
      some (orderMessage (orderAfter order before) message) := by
  induction before generalizing order with
  | nil =>
    rw [List.nil_append, sortToolResults_cons]
    rfl
  | cons first before ih =>
    rw [List.cons_append, sortToolResults_cons, List.length_cons,
      List.getElem?_cons_succ, ih]
    rfl

theorem orderAfter_recentCalls
    (before : List PromptMessage) :
    orderAfter [] before = callOrder (recentCalls before) := by
  induction before using List.reverseRecOn with
  | nil => rfl
  | append_singleton before message ih =>
    have last :
        orderAfter [] (before ++ [message]) =
          if message.role = .assistant ∧ message.toolCalls ≠ [] then
            callOrder message.toolCalls
          else orderAfter [] before := by
      rw [orderAfter, List.foldl_append]
      rfl
    rw [last, ih]
    unfold recentCalls
    rw [List.reverse_append, List.reverse_singleton, List.singleton_append]
    by_cases calls : message.role = .assistant ∧ message.toolCalls ≠ []
    · rw [if_pos calls, List.find?_cons_of_pos (by simpa using calls)]
    · rw [if_neg calls, List.find?_cons_of_neg (by simpa using calls)]

theorem sortToolResults_contents
    (messages : List PromptMessage) :
    (((sortToolResults order messages).filter fun message =>
        message.role = .user).flatMap PromptMessage.contentBlocks).Perm
      ((messages.filter fun message => message.role = .user).flatMap
        PromptMessage.contentBlocks) := by
  induction messages generalizing order with
  | nil => rfl
  | cons message rest ih =>
    have others := ih (orderAfter order [message])
    rw [sortToolResults_cons]
    by_cases user : message.role = .user
    · have blocks :
          (orderMessage order message).contentBlocks.Perm message.contentBlocks := by
        unfold orderMessage
        split
        · rfl
        · exact sortBlocks_perm order message.contentBlocks
      have sameRole : (orderMessage order message).role = message.role := by
        unfold orderMessage
        split <;> rfl
      rw [List.filter_cons_of_pos (by simpa [sameRole] using user),
        List.filter_cons_of_pos (by simpa using user), List.flatMap_cons,
        List.flatMap_cons]
      exact blocks.append others
    · rw [orderMessage, if_pos (Or.inl user),
        List.filter_cons_of_neg (by simpa using user),
        List.filter_cons_of_neg (by simpa using user)]
      exact others

/--
Merging and ordering lose no content: each run of user and tool messages becomes one
message unless a task closes it, and only results move, into the order of their
calls.
-/
theorem keepsResults_named
    (messages : List PromptMessage) :
    KeepsResults (· ≠ []) messages := by
  obtain ⟨groups, flat, runs, parted⟩ := mergeToolMessages_runs messages
  refine ⟨?_, ⟨groups, flat, runs⟩, parted, ?_⟩
  · rw [← flat, ← mergedFrom_contents runs, flat]
    exact sortToolResults_contents [] (mergeToolMessages messages)
  · intro before message after shape
    rw [shape, sortToolResults_at, orderAfter_recentCalls, orderMessage]
    by_cases user : message.role = .user
    · have isUser : message ∈ mergeToolMessages messages := by
        rw [shape]
        simp
      have blocks := merged_blocks_ne_nil runs message isUser user
      rw [if_neg (by simp [user, blocks])]
      exact ⟨_, rfl, fun other => absurd user other, fun _ => sortBlocks_orders _ _⟩
    · rw [if_pos (Or.inl user)]
      exact ⟨_, rfl, fun _ => rfl, fun isUser => absurd isUser user⟩

/-- An assistant message with two calls, the second without an id. -/
def unnamedCall : PromptMessage :=
  { role := .assistant,
    toolCalls := [{ id := bytes "call", name := bytes "f" },
      { id := [], name := bytes "g" }] }

/-- The results of the two calls, the second call's first. -/
def unnamedResults : List ContentBlock :=
  [.toolResult (bytes "2") [], .toolResult (bytes "1") (bytes "call")]

/-- The user message that holds the two results. -/
def unnamedAnswer : PromptMessage :=
  { role := .user, contentBlocks := unnamedResults }

/-- A result for a call without an id is placed with the first call. -/
theorem keepsResults_unnamedCall :
    ¬ KeepsResults (fun _ => True)
      [unnamedCall,
        { role := .tool, content := bytes "2", toolCallId := [] },
        { role := .tool, content := bytes "1", toolCallId := bytes "call" }] := by
  intro keeps
  obtain ⟨blocks, here, -, orders⟩ :=
    keeps.ordered [unnamedCall] unnamedAnswer [] (by decide)
  have unmoved :
      sortBlocks (callOrder unnamedCall.toolCalls) unnamedResults = unnamedResults := by
    unfold sortBlocks
    rw [if_neg (by decide), List.mergeSort_of_pairwise (by decide)]
    decide
  have answered : orderMessage (orderAfter [] [unnamedCall]) unnamedAnswer =
      unnamedAnswer := by
    rw [orderMessage, if_neg (by decide)]
    exact congrArg
      (fun blocks => ({ role := .user, contentBlocks := blocks } : PromptMessage))
      unmoved
  have kept : some unnamedAnswer =
      some { unnamedAnswer with contentBlocks := blocks } :=
    (congrArg some answered.symm).trans
      ((sortToolResults_at [] [unnamedCall] unnamedAnswer []).symm.trans here)
  have inOrder := (orders rfl).inOrder
  obtain rfl : unnamedResults = blocks :=
    congrArg PromptMessage.contentBlocks (Option.some.inj kept)
  have called (index : Nat) (call : PromptToolCall)
      (isCall : unnamedCall.toolCalls[index]? = some call) :
      LastCall unnamedCall.toolCalls call.id index := by
    refine ⟨⟨call, isCall, rfl⟩, fun later other behind isLater => ?_⟩
    have inside := (List.getElem?_eq_some_iff.mp isLater).1
    obtain ⟨rfl, rfl⟩ : index = 0 ∧ later = 1 := by
      have : unnamedCall.toolCalls.length = 2 := rfl
      omega
    obtain rfl := Option.some.inj isCall
    obtain rfl := Option.some.inj isLater
    decide
  have placed := List.rel_of_pairwise_cons inOrder List.mem_cons_self trivial trivial
    1 0 (called 1 { id := [], name := bytes "g" } rfl)
    (called 0 { id := bytes "call", name := bytes "f" } rfl)
  omega

end Aeon.Text
