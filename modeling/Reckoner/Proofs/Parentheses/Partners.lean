import Mathlib.Order.Bounds.Basic
import Mathlib.Order.Nat
import Reckoner.Proofs.Grammar.Unambiguity
import Reckoner.Proofs.Reduction.Grouping

/-!
Contract: which parentheses are partners.

An open parenthesis and a closing one behind it are partners if the tokens
between them are balanced; together they are a group. Groups are told apart by
the places of their tokens, and no scan is needed to find them. A group does
not reach across the border of balanced tokens, so the groups of joined lists
are those of the parts.

Owns: groups, the parentheses without partner, and how both behave when lists
are joined.

Does not own: what the scan for groups makes of them.
-/

namespace Reckoner

open Grammar (Balanced depth_append depth_cons depthChange_of_opens depthChange_of_closes)

namespace Token

def IsParenthesis (token : Token) : Prop :=
  token.Opens ∨ token.Closes

end Token

/-- The token at the place opens a group, and these are the tokens up to its
partner. -/
inductive GroupAt (tokens : List Token) (start : Nat) (inner : List Token) : Prop where
  | intro (before after : List Token) (opening closing : Token)
      (split : tokens = before ++ opening :: (inner ++ closing :: after))
      (starts : before.length = start) (opens : opening.Opens) (closes : closing.Closes)
      (balanced : Balanced inner)

/-- The parenthesis at the place is one of the two around some group. -/
def HasPartner (tokens : List Token) (place : Nat) : Prop :=
  ∃ start inner, GroupAt tokens start inner ∧ (place = start ∨ place = start + inner.length + 1)

/-- The places of the tokens of a kind that are not parentheses around a group. -/
def unpaired (kind : Token → Prop) (tokens : List Token) : Set Nat :=
  {place | (∃ token, tokens[place]? = some token ∧ kind token) ∧ ¬ HasPartner tokens place}

variable {left right tokens inner : List Token} {kind : Token → Prop} {start place : Nat}

/-! ### Groups of joined lists -/

namespace GroupAt

theorem append_right (group : GroupAt left start inner) (right : List Token) :
    GroupAt (left ++ right) start inner := by
  obtain ⟨before, after, opening, closing, rfl, starts, opens, closes, balanced⟩ := group
  exact ⟨before, after ++ right, opening, closing, by simp, starts, opens, closes, balanced⟩

theorem append_left (group : GroupAt right start inner) (left : List Token) :
    GroupAt (left ++ right) (left.length + start) inner := by
  obtain ⟨before, after, opening, closing, rfl, rfl, opens, closes, balanced⟩ := group
  exact ⟨left ++ before, after, opening, closing, by simp, by simp, opens, closes, balanced⟩

/-- A group begins with an open parenthesis and ends with a closing one. -/
theorem getElem?_eq_some (group : GroupAt tokens start inner) :
    (∃ opening, tokens[start]? = some opening ∧ opening.Opens) ∧
      ∃ closing, tokens[start + inner.length + 1]? = some closing ∧ closing.Closes := by
  obtain ⟨before, after, opening, closing, rfl, rfl, opens, closes, _⟩ := group
  refine ⟨⟨opening, by simp, opens⟩, closing, ?_, closes⟩
  rw [Nat.add_assoc, List.getElem?_append_right (Nat.le_add_right _ _), Nat.add_sub_cancel_left,
    List.getElem?_cons_succ, List.getElem?_append_right (Nat.le_refl _), Nat.sub_self]
  rfl

/-- A group at the border of balanced tokens is on one side of it. Across it, the
tokens from the open parenthesis up to the border would have a positive depth. -/
theorem of_append (balanced : Balanced left) (group : GroupAt (left ++ right) start inner) :
    start + inner.length + 1 < left.length ∨
      ∃ later, start = left.length + later ∧ GroupAt right later inner := by
  obtain ⟨before, after, opening, closing, split, rfl, opens, closes, inside⟩ := group
  rcases List.append_eq_append_iff.mp split with ⟨more, rfl, rest⟩ | ⟨begun, isLeft, rest⟩
  · exact .inr ⟨more.length, by simp, more, after, opening, closing, rest, rfl, opens, closes,
      inside⟩
  rcases List.cons_eq_append_iff.mp rest with ⟨rfl, isRight⟩ | ⟨reached, rfl, behind⟩
  · rw [List.append_nil] at isLeft
    exact .inr ⟨0, by rw [isLeft, Nat.add_zero], [], after, opening, closing, isRight, rfl, opens,
      closes, inside⟩
  -- The open parenthesis is on the left, and so is its partner.
  have total : 0 ≤ Grammar.depth before := balanced.prefix_nonneg before _ isLeft
  have whole := balanced.depth_eq_zero
  rw [isLeft, depth_append, depth_cons, depthChange_of_opens opens] at whole
  have within : Grammar.depth reached < 0 := by omega
  rcases List.append_eq_append_iff.mp behind with ⟨last, rfl, ending⟩ | ⟨missing, isInner, _⟩
  · rcases List.cons_eq_append_iff.mp ending with ⟨rfl, _⟩ | ⟨beyond, rfl, _⟩
    · rw [List.append_nil, inside.depth_eq_zero] at within
      exact absurd within (Int.lt_irrefl 0)
    · refine .inl ?_
      rw [isLeft]
      simp only [List.length_append, List.length_cons]
      omega
  · have nonneg := inside.prefix_nonneg reached missing isInner
    omega

end GroupAt

/-! ### Parentheses without partner -/

theorem HasPartner.append_right (partner : HasPartner left place) (right : List Token) :
    HasPartner (left ++ right) place := by
  obtain ⟨start, inner, group, isEnd⟩ := partner
  exact ⟨start, inner, group.append_right right, isEnd⟩

theorem HasPartner.append_left (partner : HasPartner right place) (left : List Token) :
    HasPartner (left ++ right) (left.length + place) := by
  obtain ⟨start, inner, group, isEnd⟩ := partner
  refine ⟨left.length + start, inner, group.append_left left, ?_⟩
  omega

theorem unpaired_mono {other : Token → Prop} (implies : ∀ token, kind token → other token)
    (tokens : List Token) : unpaired kind tokens ⊆ unpaired other tokens :=
  fun _ ⟨⟨token, found, isKind⟩, alone⟩ => ⟨⟨token, found, implies token isKind⟩, alone⟩

theorem lt_length_of_mem_unpaired (lacks : place ∈ unpaired kind tokens) :
    place < tokens.length := by
  obtain ⟨⟨_, found, _⟩, _⟩ := lacks
  exact (List.getElem?_eq_some_iff.mp found).1

/-- A parenthesis without partner has none in its part of the list either. -/
theorem unpaired_append (lacks : place ∈ unpaired kind (left ++ right)) :
    place ∈ unpaired kind left ∨ ∃ later ∈ unpaired kind right, place = left.length + later := by
  obtain ⟨⟨token, found, isKind⟩, alone⟩ := lacks
  by_cases inLeft : place < left.length
  · rw [List.getElem?_append_left inLeft] at found
    exact .inl ⟨⟨token, found, isKind⟩, fun partner => alone (partner.append_right right)⟩
  · obtain ⟨later, rfl⟩ := Nat.exists_eq_add_of_le (Nat.le_of_not_lt inLeft)
    rw [List.getElem?_append_right (Nat.le_add_right _ _), Nat.add_sub_cancel_left] at found
    exact .inr ⟨later, ⟨⟨token, found, isKind⟩, fun partner => alone (partner.append_left left)⟩,
      rfl⟩

theorem unpaired_append_eq_empty (leftPaired : unpaired kind left = ∅)
    (rightPaired : unpaired kind right = ∅) : unpaired kind (left ++ right) = ∅ := by
  refine Set.eq_empty_of_forall_notMem fun place lacks => ?_
  rcases unpaired_append lacks with inLeft | ⟨later, inRight, _⟩
  · rw [leftPaired] at inLeft
    exact inLeft
  · rw [rightPaired] at inRight
    exact inRight

theorem unpaired_nil : unpaired kind [] = ∅ := by
  refine Set.eq_empty_of_forall_notMem fun place lacks => ?_
  obtain ⟨⟨token, found, _⟩, _⟩ := lacks
  cases found

theorem unpaired_singleton {token : Token} (other : ¬ kind token) : unpaired kind [token] = ∅ := by
  refine Set.eq_empty_of_forall_notMem fun place lacks => ?_
  obtain ⟨⟨found, isFound, isKind⟩, _⟩ := lacks
  cases place with
  | zero =>
      cases isFound
      exact other isKind
  | succ place => cases isFound

/-- Around tokens that are paired, two parentheses are partners. -/
theorem unpaired_group {opening closing : Token} (opens : opening.Opens)
    (balanced : Balanced inner) (closes : closing.Closes) (paired : unpaired kind inner = ∅) :
    unpaired kind (opening :: (inner ++ [closing])) = ∅ := by
  have whole : GroupAt (opening :: (inner ++ [closing])) 0 inner :=
    ⟨[], [], opening, closing, rfl, rfl, opens, closes, balanced⟩
  refine Set.eq_empty_of_forall_notMem fun place lacks => ?_
  have notFirst : place ≠ 0 := fun first => lacks.2 ⟨0, inner, whole, .inl first⟩
  have notLast : place ≠ inner.length + 1 :=
    fun last => lacks.2 ⟨0, inner, whole, .inr (by omega)⟩
  have parted : place ∈ unpaired kind ([opening] ++ (inner ++ [closing])) := lacks
  rcases unpaired_append parted with first | ⟨later, inRest, rfl⟩
  · exact notFirst (Nat.lt_one_iff.mp (lt_length_of_mem_unpaired first))
  rcases unpaired_append inRest with isInner | ⟨last, isLast, rfl⟩
  · rw [paired] at isInner
    exact isInner
  · have isZero : last = 0 := Nat.lt_one_iff.mp (lt_length_of_mem_unpaired isLast)
    rw [isZero, List.length_singleton] at notLast
    omega

/-! ### Collapsing tokens -/

namespace Collapses

variable {flat : List Token}

theorem balanced (collapses : Collapses tokens flat) : Balanced tokens := by
  induction collapses with
  | nil => exact ⟨rfl, fun before after split => by simp [List.append_eq_nil_iff.mp split.symm]⟩
  | @keep token tokens flat notOpens notCloses _ inductionHypothesis =>
      have level : Grammar.depthChange token = 0 := by
        cases same : token.lexeme with
        | openParen spelling => exact absurd ⟨spelling, same⟩ notOpens
        | closeParen spelling => exact absurd ⟨spelling, same⟩ notCloses
        | _ => simp only [Grammar.depthChange, same]
      exact (Balanced.singleton level).append inductionHypothesis
  | @group opening closing inner innerFlat tokens flat value opens _ _ closes _ inside rest =>
      have joined := (Balanced.group opens inside closes).append rest
      simpa using joined

/-- Every parenthesis of tokens that collapse has a partner. -/
theorem unpaired_eq_empty (collapses : Collapses tokens flat)
    (parentheses : ∀ token, kind token → token.IsParenthesis) : unpaired kind tokens = ∅ := by
  induction collapses with
  | nil => exact unpaired_nil
  | @keep token tokens flat notOpens notCloses _ inductionHypothesis =>
      have other : ¬ kind token :=
        fun isKind => (parentheses token isKind).elim notOpens notCloses
      exact unpaired_append_eq_empty (unpaired_singleton other) inductionHypothesis
  | @group opening closing inner innerFlat tokens flat value opens inside _ closes _ paired rest =>
      have joined :=
        unpaired_append_eq_empty (unpaired_group opens inside.balanced closes paired) rest
      simpa using joined

end Collapses

end Reckoner
