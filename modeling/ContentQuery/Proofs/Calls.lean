/-
This file proves that reading ends, on every text. A rule that succeeds has gone on in the text and
left the depth as it found it, and that is what keeps the grammar from reading for ever.

To say so without the bounds that the rules are written with, each rule is described by a plan:
what it does before, between and after its calls of other rules. A call is only named in a plan, so
plans may go in circles, from a term through a group to a term, and from a loop back to the loop.
A plan ends when all its calls do and it goes on to an end with what they answer. Now a call goes
to a place with less text, or to a tighter rule at the same place. No chain of calls is therefore
endless, every plan ends, and it ends as the rule of the library does. The bounds are never used
up, and nothing but the text decides when a loop stops.
-/

import ContentQuery.Proofs.Accepted
import ContentQuery.Proofs.Bounds
import ContentQuery.Proofs.Writing

namespace ContentQuery.Query

open Rule Text

variable {Value Other : Type} {limit : Option Nat}

/-! ### Plans -/

/-- A rule that can be called, with what it has read so far if it is a loop. -/
inductive Stage where
  /-- A term of a level; a chain of `or` is a term. -/
  | level (level : Level)
  /-- The loop over the operands of a connective, with the operands that are joined so far. -/
  | furtherOperands (kind : Connective) (left : Term)
  /-- A term in brackets. -/
  | group
  /-- An atom. -/
  | atom
  /-- A list of values in brackets. -/
  | valueList
  /-- The items of a list. -/
  | items
  /-- The loop over the items of a list, with the items that are read so far. -/
  | furtherItems (found : List (List Char))

/-- What the rule yields. -/
@[reducible]
def Stage.Result : Stage → Type
  | level _ => Term
  | furtherOperands _ _ => Term
  | group => Term
  | atom => Atom
  | valueList => List (List Char)
  | items => List (List Char)
  | furtherItems _ => List (List Char)

/-- What a rule does from some point on: it is at its end, or it calls a rule at a place and goes
on with the outcome. -/
inductive Plan (Value : Type) where
  /-- There is nothing to do any more. -/
  | done (outcome : Except Failure (Value × Cursor))
  /-- A rule is called. -/
  | call (stage : Stage) (place : Cursor)
      (next : Except Failure (stage.Result × Cursor) → Plan Value)

namespace Plan

/-- Goes on behind what was read, and ends with the failure if it was not. -/
def behind (outcome : Except Failure (Other × Cursor)) (next : Other → Cursor → Plan Value) :
    Plan Value :=
  match outcome with
  | .ok (value, after) => next value after
  | .error failure => .done (.error failure)

/-- Calls a rule that must succeed, and goes on behind what it reads. -/
def require (stage : Stage) (place : Cursor) (next : stage.Result → Cursor → Plan Value) :
    Plan Value :=
  .call stage place (behind · next)

end Plan

/-- The text between the brackets of a list, and the place where it begins. -/
def listContent : Rule (Cursor × List Char) := do
  literal "(" .openingBracket
  let start ← here
  let content ← takeWhile (· != ')')
  literal ")" .closingBracket
  pure (start, content)

/-- Accepts an atom that was read if there is no fault in it. -/
def PlacedAtom.verdict (placed : PlacedAtom) : Rule Atom :=
  match placed.fault? with
  | none => pure placed.atom
  | some failure => reject failure

/-- The plan of each rule at a place, with at most `limit` groups open at a time. -/
@[simp]
def plan (limit : Option Nat) : (stage : Stage) → Cursor → Plan stage.Result
  | .level (.chain kind), cursor =>
    .require (.level (.operand kind)) cursor fun first after =>
      .call (.furtherOperands kind first) after .done
  | .furtherOperands kind left, cursor =>
    match connective kind.word cursor with
    | .error _ => .done (.ok (left, cursor))
    | .ok ((), place) =>
      .require (.level (.operand kind)) place fun right after =>
        .call (.furtherOperands kind (.join kind left right)) after .done
  | .level .unary, cursor =>
    match connective negationWord cursor with
    | .error _ => .call (.level .primary) cursor .done
    | .ok ((), place) =>
      .require (.level .primary) place fun operand after => .done (.ok (.negate operand, after))
  | .level .primary, cursor =>
    .call .atom cursor fun
      | .ok (content, after) => .done (.ok (.leaf content, after))
      | .error first =>
        .call .group cursor fun outcome => .done (outcome.mapError first.furthest)
  | .group, cursor =>
    .behind (token (literal "(" .openingBracket) cursor) fun () inside =>
      if limit.any (· ≤ inside.depth) then .done (.error (inside.missing .shallowerNesting))
      else
        .require (.level (.chain .or)) (inside.atDepth (inside.depth + 1)) fun tree last =>
          .behind (token (literal ")" .closingBracket) last) fun () after =>
            .done (.ok (tree, after.atDepth inside.depth))
  | .atom, cursor =>
    .behind (token fieldName cursor) fun field operatorPlace =>
      .behind (token operator operatorPlace) fun sign valuePlace =>
        match sign with
        | .comparison sign =>
          .behind (token value valuePlace) fun text after =>
            let atom := .single field sign (String.ofList text)
            .done (PlacedAtom.verdict ⟨atom, operatorPlace, valuePlace⟩ after)
        | .membership sign =>
          .require .valueList valuePlace fun texts last =>
            .behind (spaces last) fun () after =>
              let atom := .list field sign (texts.map String.ofList)
              .done (PlacedAtom.verdict ⟨atom, operatorPlace, valuePlace⟩ after)
  | .valueList, cursor =>
    .behind (listContent cursor) fun (start, content) after =>
      .require .items ⟨start.offset, content, start.depth⟩ fun texts last =>
        .behind (endOfText last) fun () _ => .done (.ok (texts, after))
  | .items, cursor =>
    .behind (item cursor) fun first after => .call (.furtherItems [first]) after .done
  | .furtherItems found, cursor =>
    match literal "," .comma cursor with
    | .error _ => .done (.ok (found, cursor))
    | .ok ((), place) =>
      .behind (item place) fun next after => .call (.furtherItems (found ++ [next])) after .done

/-- The plan ends with the outcome: every rule that it calls ends, and it goes on with that. -/
inductive Ends (limit : Option Nat) :
    {Value : Type} → Plan Value → Except Failure (Value × Cursor) → Prop where
  /-- There is nothing to do any more. -/
  | done {Value : Type} (outcome : Except Failure (Value × Cursor)) :
    Ends limit (.done outcome) outcome
  /-- The rule that is called ends with an answer, and the plan goes on to its end. -/
  | call {Value : Type} {stage : Stage} {place : Cursor}
      {next : Except Failure (stage.Result × Cursor) → Plan Value}
      {answer : Except Failure (stage.Result × Cursor)}
      {outcome : Except Failure (Value × Cursor)}
      (called : Ends limit (plan limit stage place) answer)
      (goesOn : Ends limit (next answer) outcome) : Ends limit (.call stage place next) outcome

/-- A rule that is called at a place. -/
structure Call where
  /-- The rule. -/
  stage : Stage
  /-- The place. -/
  place : Cursor

/-- The plan comes to the call, past the calls in front of it that have ended. -/
inductive Makes (limit : Option Nat) : {Value : Type} → Plan Value → Call → Prop where
  /-- The first call of the plan. -/
  | first {Value : Type} {stage : Stage} {place : Cursor}
      {next : Except Failure (stage.Result × Cursor) → Plan Value} :
    Makes limit (.call stage place next) ⟨stage, place⟩
  /-- A call behind the first one. -/
  | further {Value : Type} {stage : Stage} {place : Cursor}
      {next : Except Failure (stage.Result × Cursor) → Plan Value}
      {answer : Except Failure (stage.Result × Cursor)} {callee : Call}
      (called : Ends limit (plan limit stage place) answer)
      (makes : Makes limit (next answer) callee) : Makes limit (.call stage place next) callee

/-- The rule of the first call makes the second one on its way, whatever comes of either. -/
def Calls (limit : Option Nat) (caller callee : Call) : Prop :=
  Makes limit (plan limit caller.stage caller.place) callee

/-! ### Rules without bounds -/

/-- The rule of a level. A chain may have as many operands as there are characters. -/
def levelRule (limit : Option Nat) : Level → Rule Term
  | .primary => primaryOf limit atom (term limit atom)
  | .unary => unaryOf (primaryOf limit atom (term limit atom))
  | .chain .and => fun cursor =>
    chain .and cursor.rest.length (unaryOf (primaryOf limit atom (term limit atom))) cursor
  | .chain .or => term limit atom

/-- The rule that a plan is the plan of. -/
def ruleOf (limit : Option Nat) : (stage : Stage) → Rule stage.Result
  | .level level => levelRule limit level
  | .furtherOperands kind left => fun cursor =>
    chainAfter kind (levelRule limit (.operand kind)) cursor.rest.length left cursor
  | .group => groupOf limit (term limit atom)
  | .atom => atom
  | .valueList => valueList
  | .items => items
  | .furtherItems found => do
    let start ← here
    let further ← moreItems start.rest.length
    pure (found ++ further)

theorem isTidy_levelRule (limit : Option Nat) (level : Level) : (levelRule limit level).IsTidy := by
  have primary := isTidy_primaryOf limit isTidy_atom (isTidy_term limit isTidy_atom)
  have unary := isTidy_unaryOf primary
  cases level with
  | primary => exact primary
  | unary => exact unary
  | chain kind =>
    cases kind with
    | and =>
      exact isTidy_of_here (fun succeeds => (isTidy_chain .and unary _).reads succeeds)
        (fun fails => (isTidy_chain .and unary _).isAhead fails)
    | or => exact isTidy_term limit isTidy_atom

/-- The rule of a chain reads operands for as long as there is text. -/
theorem levelRule_chain (limit : Option Nat) (kind : Connective) (cursor : Cursor) :
    levelRule limit (.chain kind) cursor =
      chain kind cursor.rest.length (levelRule limit (.operand kind)) cursor := by
  cases kind with
  | and => rfl
  | or =>
    have unary := isTidy_levelRule limit .unary
    have conjunction : AgreeBelow (cursor.rest.length + 1)
        (chain .and cursor.rest.length (levelRule limit .unary))
        (levelRule limit (.chain .and)) := fun place short =>
      agreeBelow_chain .and unary (.refl _) (Nat.le_of_lt_succ short) (Nat.le_refl _)
        (Nat.lt_succ_self _)
    rw [levelRule, term_eq limit isTidy_atom (Nat.le_refl _)]
    exact agreeBelow_chain .or (isTidy_chain .and unary _) conjunction (Nat.le_refl _)
      (Nat.le_refl _) (Nat.lt_succ_self _)

/-- Yields a value at the place with the given number of open groups. -/
def backAt (depth : Nat) (value : Value) : Rule Value := fun cursor =>
  .ok (value, cursor.atDepth depth)

/-- A group within the limit is read one level deeper, and then the depth is as before. -/
theorem nested_of_shallow {rule : Rule Value} {cursor : Cursor}
    (shallow : ¬ limit.any (· ≤ cursor.depth) = true) :
    nested limit rule cursor =
      (rule >>= backAt cursor.depth) (cursor.atDepth (cursor.depth + 1)) := by
  rw [nested, if_neg shallow]
  rfl

/-- Yields a value at the given place, wherever the rule is run. -/
def yieldAt (place : Cursor) (value : Value) : Rule Value := fun _ => .ok (value, place)

/-- A piece of text is read to its end, and then the place is as before. -/
theorem inside_eq (start : Cursor) (content : List Char) (rule : Rule Value) (cursor : Cursor) :
    inside start content rule cursor =
      (rule >>= fun value => endOfText >>= fun _ => yieldAt cursor value)
        ⟨start.offset, content, start.depth⟩ := by
  have atEnd : (rule >>= fun value => endOfText >>= fun _ => yieldAt cursor value) =
      (rule >>= fun value => endOfText >>= fun _ => pure value) >>= yieldAt cursor := by
    simp only [Rule.bind_assoc]
    rfl
  rw [atEnd, inside]
  rfl

/-! ### Plans answered by rules -/

namespace Plan

/-- The outcome of a plan when the rules of the library answer its calls. -/
def answered (limit : Option Nat) : Plan Value → Except Failure (Value × Cursor)
  | .done outcome => outcome
  | .call stage place next => (next (ruleOf limit stage place)).answered limit

/-- What a plan does behind what was read, as a rule. -/
def rest (limit : Option Nat) (next : Other → Cursor → Plan Value) : Other → Rule Value :=
  fun value after => (next value after).answered limit

theorem answered_behind (rule : Rule Other) (cursor : Cursor)
    (next : Other → Cursor → Plan Value) :
    (behind (rule cursor) next).answered limit = (rule >>= rest limit next) cursor := by
  cases reads : rule cursor with
  | ok found =>
    rw [Rule.bind_ok reads]
    rfl
  | error failure =>
    rw [Rule.bind_error reads]
    rfl

theorem answered_require (stage : Stage) (place : Cursor)
    (next : stage.Result → Cursor → Plan Value) :
    (require stage place next).answered limit =
      (ruleOf limit stage >>= rest limit next) place :=
  answered_behind (ruleOf limit stage) place next

end Plan

theorem answered_plan_primary (cursor : Cursor) :
    (plan limit (.level .primary) cursor).answered limit = levelRule limit .primary cursor := by
  cases reads : atom cursor with
  | ok found =>
    obtain ⟨content, after⟩ := found
    have leaf : (Tree.leaf <$> atom) cursor = .ok (.leaf content, after) := bind_ok reads
    simp only [plan, Plan.answered, ruleOf, reads, levelRule, primaryOf, orElse, leaf]
  | error first =>
    have leaf : (Tree.leaf <$> atom) cursor = .error first := bind_error reads
    simp only [plan, Plan.answered, ruleOf, reads, levelRule, primaryOf, orElse, leaf]
    cases groupOf limit (term limit atom) cursor <;> rfl

theorem answered_plan_unary (cursor : Cursor) :
    (plan limit (.level .unary) cursor).answered limit = levelRule limit .unary cursor := by
  cases word : connective negationWord cursor with
  | ok found =>
    obtain ⟨_, place⟩ := found
    simp only [plan, word, Plan.answered_require]
    exact (unaryOf_of_ok word).symm
  | error failure =>
    simp only [plan, word]
    exact (unaryOf_of_error word).symm

theorem answered_plan_chain (kind : Connective) (cursor : Cursor) :
    (plan limit (.level (.chain kind)) cursor).answered limit =
      levelRule limit (.chain kind) cursor := by
  have tidy := isTidy_levelRule limit (.operand kind)
  simp only [plan, Plan.answered_require, ruleOf, levelRule_chain]
  refine bind_congr_of_ok fun {first after} reads => ?_
  exact (chainAfter_eq_of_covers kind tidy (tidy.length_le reads) first).symm

theorem answered_plan_furtherOperands (kind : Connective) (left : Term) (cursor : Cursor) :
    (plan limit (.furtherOperands kind left) cursor).answered limit =
      chainAfter kind (levelRule limit (.operand kind)) cursor.rest.length left cursor := by
  have tidy := isTidy_levelRule limit (.operand kind)
  cases word : connective kind.word cursor with
  | error failure =>
    simp only [plan, word]
    exact (chainAfter_of_error word).symm
  | ok found =>
    obtain ⟨_, place⟩ := found
    have shorter := progresses_connective (word_ne_nil kind) word
    obtain ⟨bound, boundEq⟩ : ∃ bound, cursor.rest.length = bound + 1 :=
      ⟨cursor.rest.length - 1, by omega⟩
    simp only [plan, word, Plan.answered_require, ruleOf, boundEq, chainAfter_of_ok word]
    refine bind_congr_of_ok fun {right after} reads => ?_
    have covers : after.rest.length ≤ bound := by
      have notLonger := tidy.length_le reads
      omega
    exact (chainAfter_eq_of_covers kind tidy covers (.join kind left right)).symm

theorem answered_plan_group (cursor : Cursor) :
    (plan limit .group cursor).answered limit = groupOf limit (term limit atom) cursor := by
  simp only [plan, Plan.answered_behind]
  refine bind_congr_of_ok fun {_ inside} _ => ?_
  by_cases deep : limit.any (· ≤ inside.depth) = true
  · simp only [Plan.rest, nested, if_pos deep]
    rfl
  · simp only [Plan.rest, nested_of_shallow deep, if_neg deep, Plan.answered_require,
      Rule.bind_assoc]
    refine bind_congr_of_ok fun {tree last} _ => ?_
    simp only [Plan.rest, Plan.answered_behind]
    exact bind_congr_of_ok fun _ => rfl

theorem answered_plan_atom (cursor : Cursor) :
    (plan limit .atom cursor).answered limit = atom cursor := by
  have inParts : atom = placedAtom >>= PlacedAtom.verdict := rfl
  simp only [plan, Plan.answered_behind, inParts, placedAtom, Rule.bind_assoc]
  refine bind_congr_of_ok fun {field operatorPlace} _ => ?_
  simp only [Plan.rest, Plan.answered_behind, here_bind]
  refine bind_congr_of_ok fun {sign valuePlace} _ => ?_
  rw [here_bind]
  cases sign with
  | comparison sign =>
    simp only [Plan.rest, Plan.answered_behind, operand, Rule.bind_assoc]
    exact bind_congr_of_ok fun _ => rfl
  | membership sign =>
    simp only [Plan.rest, Plan.answered_require, operand, token, Rule.bind_assoc]
    refine bind_congr_of_ok fun {texts last} _ => ?_
    simp only [Plan.rest, Plan.answered_behind]
    exact bind_congr_of_ok fun _ => rfl

theorem answered_plan_valueList (cursor : Cursor) :
    (plan limit .valueList cursor).answered limit = valueList cursor := by
  simp only [plan, Plan.answered_behind, listContent, Rule.bind_assoc]
  refine bind_congr_of_ok fun _ => bind_congr_of_ok fun {start _} _ => ?_
  refine bind_congr_of_ok fun {content _} _ => bind_congr_of_ok fun {_ after} _ => ?_
  rw [inside_eq]
  refine (Plan.answered_require .items _ _).trans (bind_congr_of_ok fun {texts last} _ => ?_)
  exact (Plan.answered_behind endOfText last _).trans (bind_congr_of_ok fun _ => rfl)

theorem answered_plan_items (cursor : Cursor) :
    (plan limit .items cursor).answered limit = items cursor := by
  simp only [plan, Plan.answered_behind, items, here_bind]
  refine bind_congr_of_ok fun {first after} reads => ?_
  exact bind_congr_of_eq _ (moreItems_eq_of_covers (isTidy_item.length_le reads)).symm

theorem answered_plan_furtherItems (found : List (List Char)) (cursor : Cursor) :
    (plan limit (.furtherItems found) cursor).answered limit =
      (moreItems cursor.rest.length >>= fun further => pure (found ++ further)) cursor := by
  cases comma : literal "," .comma cursor with
  | error failure =>
    simp only [plan, comma]
    refine Eq.trans ?_ (bind_ok (moreItems_of_error comma)).symm
    exact congrArg (fun texts => Except.ok (texts, cursor)) (List.append_nil found).symm
  | ok result =>
    obtain ⟨_, place⟩ := result
    have shorter := progresses_literal (by decide) comma
    obtain ⟨bound, boundEq⟩ : ∃ bound, cursor.rest.length = bound + 1 :=
      ⟨cursor.rest.length - 1, by omega⟩
    simp only [plan, comma, Plan.answered_behind, boundEq]
    refine Eq.trans ?_ (bind_congr_of_eq _ (moreItems_of_ok comma)).symm
    rw [Rule.bind_assoc]
    refine bind_congr_of_ok fun {next after} reads => ?_
    have covers : after.rest.length ≤ bound := by
      have notLonger := isTidy_item.length_le reads
      omega
    have same := moreItems_eq_of_covers covers
    rw [Rule.bind_assoc]
    refine (bind_congr_of_eq _ same.symm).trans (bind_congr_of_ok fun {further last} _ => ?_)
    exact congrArg (fun texts => Except.ok (texts, last)) (List.append_assoc found [next] further)

/-- Every rule does what its plan says, if all others do. -/
theorem answered_plan (stage : Stage) (cursor : Cursor) :
    (plan limit stage cursor).answered limit = ruleOf limit stage cursor := by
  cases stage with
  | level level =>
    cases level with
    | primary => exact answered_plan_primary cursor
    | unary => exact answered_plan_unary cursor
    | chain kind => exact answered_plan_chain kind cursor
  | furtherOperands kind left => exact answered_plan_furtherOperands kind left cursor
  | group => exact answered_plan_group cursor
  | atom => exact answered_plan_atom cursor
  | valueList => exact answered_plan_valueList cursor
  | items => exact answered_plan_items cursor
  | furtherItems found => exact answered_plan_furtherItems found cursor

theorem Ends.answered_eq {plan : Plan Value} {outcome : Except Failure (Value × Cursor)}
    (ends : Ends limit plan outcome) : plan.answered limit = outcome := by
  induction ends with
  | done outcome => rfl
  | @call _ stage place next answer outcome _ _ calledHypothesis goesOnHypothesis =>
    rw [answered_plan] at calledHypothesis
    rw [Plan.answered, calledHypothesis, goesOnHypothesis]

/-- If the plan of a rule ends, it ends as the rule does. -/
theorem Ends.rule_eq {stage : Stage} {place : Cursor}
    {answer : Except Failure (stage.Result × Cursor)}
    (ends : Ends limit (plan limit stage place) answer) : ruleOf limit stage place = answer :=
  (answered_plan stage place).symm.trans ends.answered_eq

/-! ### Calls go down -/

variable {stage : Stage} {cursor place : Cursor} {caller callee : Call}

theorem not_makes_done {outcome : Except Failure (Value × Cursor)} :
    ¬ Makes limit (.done outcome) callee := by
  intro makes
  cases makes

theorem Makes.of_behind {outcome : Except Failure (Other × Cursor)}
    {next : Other → Cursor → Plan Value} (makes : Makes limit (.behind outcome next) callee) :
    ∃ value after, outcome = .ok (value, after) ∧ Makes limit (next value after) callee := by
  cases outcome with
  | ok found => exact ⟨found.1, found.2, rfl, makes⟩
  | error failure => exact absurd makes not_makes_done

/-- Behind its first call, a plan goes on with what the rule answers. -/
theorem Makes.of_call {next : Except Failure (stage.Result × Cursor) → Plan Value}
    (makes : Makes limit (.call stage place next) callee) :
    callee = ⟨stage, place⟩ ∨ Makes limit (next (ruleOf limit stage place)) callee := by
  cases makes with
  | first => exact .inl rfl
  | further called makes => exact .inr (called.rule_eq ▸ makes)

/-- A plan that calls a rule and ends makes that call only. -/
theorem Makes.of_last {next : Except Failure (stage.Result × Cursor) → Plan Value}
    (last : ∀ answer, ∃ outcome, next answer = .done outcome)
    (makes : Makes limit (.call stage place next) callee) : callee = ⟨stage, place⟩ := by
  rcases makes.of_call with same | makes
  · exact same
  · obtain ⟨outcome, ended⟩ := last (ruleOf limit stage place)
    rw [ended] at makes
    exact absurd makes not_makes_done

theorem Makes.of_require {next : stage.Result → Cursor → Plan Value}
    (makes : Makes limit (.require stage place next) callee) :
    callee = ⟨stage, place⟩ ∨ ∃ value after, ruleOf limit stage place = .ok (value, after) ∧
      Makes limit (next value after) callee := by
  rcases makes.of_call with same | makes
  · exact .inl same
  · exact .inr makes.of_behind

/-- How many rules are tighter than the rule. Only the rules for terms call others in place. -/
def Stage.height : Stage → Nat
  | .level own => own.looseness + 1
  | _ => 0

/-- A call is below another one if there is less text at its place, or if the place is the same
and the rule is tighter. -/
def Call.Below (callee caller : Call) : Prop :=
  callee.place.rest.length < caller.place.rest.length ∨
    callee.place = caller.place ∧ callee.stage.height < caller.stage.height

theorem Call.Below.trans {first second third : Call} (below : first.Below second)
    (lower : second.Below third) : first.Below third := by
  rcases below with less | ⟨same, tighter⟩
  · rcases lower with muchLess | ⟨same, _⟩
    · exact .inl (Nat.lt_trans less muchLess)
    · exact .inl (same ▸ less)
  · rcases lower with less | ⟨also, muchTighter⟩
    · exact .inl (same.symm ▸ less)
    · exact .inr ⟨same.trans also, Nat.lt_trans tighter muchTighter⟩

theorem wellFounded_below : WellFounded Call.Below := by
  refine Subrelation.wf (fun {callee caller} below => ?_)
    (InvImage.wf (fun call : Call => (call.place.rest.length, call.stage.height))
      (Prod.lex Nat.lt_wfRel Nat.lt_wfRel).wf)
  rcases below with less | ⟨same, tighter⟩
  · exact .left _ _ less
  · simp only [InvImage, same]
    exact .right _ tighter

theorem progresses_levelRule (limit : Option Nat) (level : Level) :
    (levelRule limit level).Progresses := by
  have primary : (levelRule limit .primary).Progresses :=
    progresses_primaryOf limit progresses_atom (isTidy_term limit isTidy_atom)
  have unary : (levelRule limit .unary).Progresses := progresses_unaryOf primary
  have chain : ∀ kind, (levelRule limit (.operand kind)).Progresses →
      (levelRule limit (.chain kind)).Progresses := by
    intro kind operand cursor after term succeeds
    rw [levelRule_chain] at succeeds
    exact progresses_chain kind (isTidy_levelRule limit _) operand _ succeeds
  cases level with
  | primary => exact primary
  | unary => exact unary
  | chain kind =>
    cases kind with
    | and => exact chain .and unary
    | or => exact chain .or (chain .and unary)

theorem progresses_items : items.Progresses := by
  intro cursor after texts succeeds
  rw [items, here_bind] at succeeds
  exact progresses_item.bind (fun _ _ => (isTidy_moreItems _ _).bind fun _ => isTidyFrom_pure _)
    succeeds

theorem length_lt_of_listContent {start after : Cursor} {content : List Char}
    (reads : listContent cursor = .ok ((start, content), after)) :
    content.length < cursor.rest.length := by
  simp only [listContent, bind_eq_ok_iff, literal_eq_ok_iff, takeWhile_eq_ok_iff] at reads
  obtain ⟨_, _, opens, _, _, ⟨⟩, _, _, ⟨takes, _⟩, _, _, _, ⟨⟩⟩ := reads
  have split := (opens.trans takes).length_eq
  simp only [List.length_append] at split
  have bracket : "(".toList.length = 1 := rfl
  omega

theorem below_of_chain {kind : Connective}
    (makes : Makes limit (plan limit (.level (.chain kind)) cursor) callee) :
    callee.Below ⟨.level (.chain kind), cursor⟩ := by
  rcases Makes.of_require makes with rfl | ⟨first, after, reads, makes⟩
  · exact .inr ⟨rfl, Nat.succ_lt_succ (Level.looseness_operand_lt kind)⟩
  · cases makes.of_last fun answer => ⟨answer, rfl⟩
    exact .inl (progresses_levelRule limit _ reads)

theorem below_of_furtherOperands {kind : Connective} {left : Term}
    (makes : Makes limit (plan limit (.furtherOperands kind left) cursor) callee) :
    callee.Below ⟨.furtherOperands kind left, cursor⟩ := by
  cases word : connective kind.word cursor with
  | error failure =>
    simp only [plan, word] at makes
    exact absurd makes not_makes_done
  | ok found =>
    obtain ⟨_, place⟩ := found
    have shorter := progresses_connective (word_ne_nil kind) word
    simp only [plan, word] at makes
    rcases makes.of_require with rfl | ⟨right, after, reads, makes⟩
    · exact .inl shorter
    · cases makes.of_last fun answer => ⟨answer, rfl⟩
      exact .inl (Nat.lt_trans (progresses_levelRule limit _ reads) shorter)

theorem below_of_unary (makes : Makes limit (plan limit (.level .unary) cursor) callee) :
    callee.Below ⟨.level .unary, cursor⟩ := by
  have tighter : (Stage.level .primary).height < (Stage.level .unary).height := by decide
  cases word : connective negationWord cursor with
  | error failure =>
    simp only [plan, word] at makes
    cases makes.of_last fun answer => ⟨answer, rfl⟩
    exact .inr ⟨rfl, tighter⟩
  | ok found =>
    obtain ⟨_, place⟩ := found
    have shorter := progresses_connective (by decide) word
    simp only [plan, word] at makes
    rcases makes.of_require with rfl | ⟨_, _, _, makes⟩
    · exact .inl shorter
    · exact absurd makes not_makes_done

theorem below_of_primary (makes : Makes limit (plan limit (.level .primary) cursor) callee) :
    callee.Below ⟨.level .primary, cursor⟩ := by
  have tighter : 0 < (Stage.level .primary).height := by decide
  rcases Makes.of_call makes with rfl | makes
  · exact .inr ⟨rfl, tighter⟩
  cases reads : ruleOf limit .atom cursor with
  | ok found =>
    simp only [reads] at makes
    exact absurd makes not_makes_done
  | error first =>
    simp only [reads] at makes
    cases makes.of_last fun answer => ⟨_, rfl⟩
    exact .inr ⟨rfl, tighter⟩

theorem below_of_group (makes : Makes limit (plan limit .group cursor) callee) :
    callee.Below ⟨.group, cursor⟩ := by
  obtain ⟨_, inside, opens, makes⟩ := Makes.of_behind makes
  have shorter := (progresses_literal (by decide)).token opens
  by_cases deep : limit.any (· ≤ inside.depth) = true
  · simp only [if_pos deep] at makes
    exact absurd makes not_makes_done
  · simp only [if_neg deep] at makes
    rcases makes.of_require with rfl | ⟨_, _, _, makes⟩
    · exact .inl shorter
    · obtain ⟨_, _, _, makes⟩ := makes.of_behind
      exact absurd makes not_makes_done

theorem below_of_atom (makes : Makes limit (plan limit .atom cursor) callee) :
    callee.Below ⟨.atom, cursor⟩ := by
  obtain ⟨field, operatorPlace, readsField, makes⟩ := Makes.of_behind makes
  obtain ⟨sign, valuePlace, readsSign, makes⟩ := makes.of_behind
  have shorter := (progresses_spelled fieldSpellings_ne_nil).token readsField
  have less : valuePlace.rest.length < cursor.rest.length :=
    Nat.lt_of_le_of_lt (isTidy_operator.token.length_le readsSign) shorter
  cases sign with
  | comparison sign =>
    obtain ⟨_, _, _, makes⟩ := makes.of_behind
    exact absurd makes not_makes_done
  | membership sign =>
    rcases makes.of_require with rfl | ⟨_, _, _, makes⟩
    · exact .inl less
    · obtain ⟨_, _, _, makes⟩ := makes.of_behind
      exact absurd makes not_makes_done

theorem below_of_valueList (makes : Makes limit (plan limit .valueList cursor) callee) :
    callee.Below ⟨.valueList, cursor⟩ := by
  obtain ⟨⟨start, content⟩, after, reads, makes⟩ := Makes.of_behind makes
  rcases makes.of_require with rfl | ⟨_, _, _, makes⟩
  · exact .inl (length_lt_of_listContent reads)
  · obtain ⟨_, _, _, makes⟩ := makes.of_behind
    exact absurd makes not_makes_done

theorem below_of_items (makes : Makes limit (plan limit .items cursor) callee) :
    callee.Below ⟨.items, cursor⟩ := by
  obtain ⟨first, after, reads, makes⟩ := Makes.of_behind makes
  cases makes.of_last fun answer => ⟨answer, rfl⟩
  exact .inl (progresses_item reads)

theorem below_of_furtherItems {found : List (List Char)}
    (makes : Makes limit (plan limit (.furtherItems found) cursor) callee) :
    callee.Below ⟨.furtherItems found, cursor⟩ := by
  cases comma : literal "," .comma cursor with
  | error failure =>
    simp only [plan, comma] at makes
    exact absurd makes not_makes_done
  | ok result =>
    obtain ⟨_, place⟩ := result
    have shorter := progresses_literal (by decide) comma
    simp only [plan, comma] at makes
    obtain ⟨next, after, reads, makes⟩ := makes.of_behind
    cases makes.of_last fun answer => ⟨answer, rfl⟩
    exact .inl (Nat.lt_trans (progresses_item reads) shorter)

/-- Every call is below the one that makes it. -/
theorem Calls.below (calls : Calls limit caller callee) : callee.Below caller := by
  obtain ⟨stage, cursor⟩ := caller
  cases stage with
  | level level =>
    cases level with
    | primary => exact below_of_primary calls
    | unary => exact below_of_unary calls
    | chain kind => exact below_of_chain calls
  | furtherOperands kind left => exact below_of_furtherOperands calls
  | group => exact below_of_group calls
  | atom => exact below_of_atom calls
  | valueList => exact below_of_valueList calls
  | items => exact below_of_items calls
  | furtherItems found => exact below_of_furtherItems calls

/-- No chain of calls goes on for ever. -/
theorem wellFounded_calls (limit : Option Nat) :
    WellFounded fun callee caller => Calls limit caller callee :=
  Subrelation.wf Calls.below wellFounded_below

theorem below_of_transGen (calls : Relation.TransGen (Calls limit) caller callee) :
    callee.Below caller := by
  induction calls with
  | single calls => exact calls.below
  | tail _ calls inductionHypothesis => exact calls.below.trans inductionHypothesis

/-- The stages are of one rule; what a loop has read so far does not matter. -/
inductive Stage.SameRule : Stage → Stage → Prop where
  /-- The stages are the same. -/
  | refl (stage : Stage) : SameRule stage stage
  /-- The loop over the operands of one connective. -/
  | furtherOperands (kind : Connective) (left other : Term) :
    SameRule (.furtherOperands kind left) (.furtherOperands kind other)
  /-- The loop over items. -/
  | furtherItems (found other : List (List Char)) :
    SameRule (.furtherItems found) (.furtherItems other)

theorem Stage.SameRule.height_eq {stage other : Stage} (same : stage.SameRule other) :
    stage.height = other.height := by
  cases same <;> rfl

/-- A rule that comes to be called again, from within or by going round a loop, is called with
less text. -/
theorem length_lt_of_transGen (calls : Relation.TransGen (Calls limit) caller callee)
    (same : caller.stage.SameRule callee.stage) :
    callee.place.rest.length < caller.place.rest.length := by
  rcases below_of_transGen calls with less | ⟨_, tighter⟩
  · exact less
  · exact absurd tighter (Nat.not_lt.mpr (Nat.le_of_eq same.height_eq))

/-! ### Plans end -/

/-- A plan ends if all calls that it comes to do. -/
theorem ends_of_makes {steps : Plan Value}
    (ends : ∀ callee, Makes limit steps callee →
      Ends limit (plan limit callee.stage callee.place) (ruleOf limit callee.stage callee.place)) :
    Ends limit steps (steps.answered limit) := by
  induction steps with
  | done outcome => exact .done outcome
  | call stage place next inductionHypothesis =>
    have called := ends ⟨stage, place⟩ .first
    exact .call called
      (inductionHypothesis _ fun callee makes => ends callee (.further called makes))

theorem ends_ruleOf (call : Call) :
    Ends limit (plan limit call.stage call.place) (ruleOf limit call.stage call.place) := by
  -- The calls of the rule are below it, so they end by the induction hypothesis, as rules do.
  induction call using (wellFounded_calls limit).induction with
  | h caller inductionHypothesis =>
    rw [← answered_plan]
    exact ends_of_makes inductionHypothesis

/-- The plan of every rule ends everywhere, and it ends as the rule does. -/
theorem ends_plan_iff {stage : Stage} {outcome : Except Failure (stage.Result × Cursor)} :
    Ends limit (plan limit stage cursor) outcome ↔ ruleOf limit stage cursor = outcome := by
  constructor
  · intro ends
    exact ends.rule_eq
  · rintro rfl
    exact ends_ruleOf ⟨stage, cursor⟩

/-! ### Rules that advance -/

/-- A success of the rule ends at a place of the same text, with as many groups open, which is
behind the place where the rule was run and not behind the end. -/
def Rule.Advances (rule : Rule Value) : Prop :=
  ∀ ⦃text : List Char⦄ ⦃cursor after : Cursor⦄ ⦃value : Value⦄,
    cursor.IsIn text → rule cursor = .ok (value, after) →
      after.IsIn text ∧ after.depth = cursor.depth ∧ cursor.offset < after.offset ∧
        after.offset ≤ utf8Length text

theorem Cursor.IsIn.offset_le {text : List Char} (place : cursor.IsIn text) :
    cursor.offset ≤ utf8Length text := by
  obtain ⟨before, rfl, offsetEq⟩ := place
  rw [offsetEq, utf8Length_append]
  exact Nat.le_add_right _ _

theorem Rule.advances {rule : Rule Value} (tidy : rule.IsTidy) (progresses : rule.Progresses) :
    rule.Advances := by
  intro text cursor after value place succeeds
  obtain ⟨lexeme, reads⟩ := tidy.reads succeeds
  have shorter := progresses succeeds
  have split := reads.length_eq
  have positive := utf8Length_pos (List.ne_nil_of_length_pos (show 0 < lexeme.length by omega))
  have offsets := reads.offset_eq
  exact ⟨reads.isIn place, reads.depth_eq, by omega, (reads.isIn place).offset_le⟩

theorem advances_connective {word : String} (nonempty : word.toList ≠ []) :
    (connective word).Advances :=
  Rule.advances (isTidy_connective word) (progresses_connective nonempty)

theorem advances_bracket {bracket : String} {expected : Expectation}
    (nonempty : bracket.toList ≠ []) : (token (literal bracket expected)).Advances :=
  Rule.advances (isTidy_sign bracket expected) (progresses_literal nonempty).token

/-- Every rule goes on in the text and leaves the depth as it found it. A rule that comes to be
called again is called with less text, whether it is a loop that goes round or a term in a
group; so no chain of calls is endless, and every rule ends at every place, with its outcome. -/
theorem rules_advance_and_end (limit : Option Nat) :
    ((term limit atom).Advances ∧
      (∀ level, (levelRule limit level).Advances) ∧
      (groupOf limit (term limit atom)).Advances ∧
      atom.Advances ∧ value.Advances ∧ valueList.Advances ∧ items.Advances ∧
      (∀ kind : Connective, (connective kind.word).Advances) ∧
      (connective negationWord).Advances ∧
      (token (literal "(" .openingBracket)).Advances ∧
      (token (literal ")" .closingBracket)).Advances) ∧
    (∀ caller callee : Call, Relation.TransGen (Calls limit) caller callee →
      caller.stage.SameRule callee.stage →
        callee.place.rest.length < caller.place.rest.length) ∧
    (WellFounded fun callee caller => Calls limit caller callee) ∧
    ∀ (stage : Stage) (cursor : Cursor) (outcome : Except Failure (stage.Result × Cursor)),
      Ends limit (plan limit stage cursor) outcome ↔ ruleOf limit stage cursor = outcome := by
  have levels : ∀ level, (levelRule limit level).Advances := fun level =>
    Rule.advances (isTidy_levelRule limit level) (progresses_levelRule limit level)
  have tidy := isTidy_term limit isTidy_atom
  refine ⟨⟨levels (.chain .or), levels, ?group, ?atom, ?value, ?valueList, ?items, ?kinds,
    ?negation, ?opens, ?closes⟩, ?again, wellFounded_calls limit, ?ends⟩
  case group => exact Rule.advances (isTidy_groupOf limit tidy) (progresses_groupOf limit tidy)
  case atom => exact Rule.advances isTidy_atom progresses_atom
  case value => exact Rule.advances isTidy_value progresses_value
  case valueList => exact Rule.advances isTidy_valueList progresses_valueList
  case items => exact Rule.advances isTidy_items progresses_items
  case kinds => exact fun kind => advances_connective (word_ne_nil kind)
  case negation => exact advances_connective (by decide)
  case opens => exact advances_bracket (by decide)
  case closes => exact advances_bracket (by decide)
  case again => exact fun caller callee calls same => length_lt_of_transGen calls same
  case ends => exact fun stage cursor outcome => ends_plan_iff

/-- A group that is read with other groups open around it, and the term in it, which is called on
the way through the rule for terms; and a loop over items that goes round once. -/
theorem rules_advance_and_end_instances :
    (∃ tree after,
      groupOf (some depthLimit) (term (some depthLimit) atom) ⟨4, "(title = a)".toList, 7⟩ =
        .ok (tree, after) ∧
      after.IsIn "not (title = a)".toList ∧ after.depth = 7 ∧ 4 < after.offset ∧
        after.offset ≤ utf8Length "not (title = a)".toList) ∧
    (Relation.TransGen (Calls (some depthLimit))
        ⟨.level (.chain .or), ⟨4, "(title = a)".toList, 7⟩⟩
        ⟨.level (.chain .or), ⟨5, "title = a)".toList, 8⟩⟩ ∧
      "title = a)".toList.length < "(title = a)".toList.length) ∧
    (Calls none ⟨.furtherItems [['a']], ⟨1, ",b".toList, 0⟩⟩
        ⟨.furtherItems [['a'], ['b']], ⟨3, [], 0⟩⟩ ∧
      0 < ",b".toList.length) ∧
    Ends none (plan none (.furtherItems [['a']]) ⟨1, ",".toList, 0⟩)
      (.error ⟨2, .quotedValue⟩) := by
  obtain ⟨⟨_, _, group, _⟩, again, _, ends⟩ := rules_advance_and_end (some depthLimit)
  obtain ⟨_, againItems, _, endsItems⟩ := rules_advance_and_end none
  have reads : groupOf (some depthLimit) (term (some depthLimit) atom)
      ⟨4, "(title = a)".toList, 7⟩ =
        .ok (.leaf (.single .title .equals "a"), ⟨15, [], 7⟩) := rfl
  have called : Relation.TransGen (Calls (some depthLimit))
        ⟨.level (.chain .or), ⟨4, "(title = a)".toList, 7⟩⟩
        ⟨.level (.chain .or), ⟨5, "title = a)".toList, 8⟩⟩ := by
    have group : Calls (some depthLimit) ⟨.level .primary, ⟨4, "(title = a)".toList, 7⟩⟩
        ⟨.group, ⟨4, "(title = a)".toList, 7⟩⟩ :=
      .further ((ends .atom _ (.error ⟨4, .fieldName⟩)).mpr rfl) .first
    exact .tail (.tail (.tail (.tail (.single .first) .first) .first) group) .first
  have round : Calls none ⟨.furtherItems [['a']], ⟨1, ",b".toList, 0⟩⟩
      ⟨.furtherItems [['a'], ['b']], ⟨3, [], 0⟩⟩ := .first
  exact ⟨⟨_, _, reads, group ⟨"not ".toList, rfl, rfl⟩ reads⟩,
    ⟨called, again _ _ called (.refl _)⟩,
    ⟨round, againItems _ _ (.single round) (.furtherItems _ _)⟩,
    (endsItems _ _ _).mpr rfl⟩

end ContentQuery.Query
