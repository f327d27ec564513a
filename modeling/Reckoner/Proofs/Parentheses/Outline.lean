import Mathlib.Data.List.Forall2
import Reckoner.Proofs.Parentheses.Partners

/-!
Contract: the outline of tokens, with their groups closed.

A token is at an outer place if no group has it behind its open parenthesis: it
is outside of all groups, or it opens an outermost one. Main statement: tokens
collapse to those at the outer places, with the value of its group, at its own
column, for each that opens one.

Owns: outer places, and what stands for the tokens there.

Does not own: which parentheses are partners.
-/

namespace Reckoner

open Grammar (Balanced)

variable {tokens left right flat : List Token}

/-! ### Outer places -/

/-- No group has the token at the place behind its open parenthesis. So the
token is outside of all groups, or it opens an outermost one. -/
def IsOuter (tokens : List Token) (place : Nat) : Prop :=
  ∀ start inner, GroupAt tokens start inner → ¬ (start < place ∧ place ≤ start + inner.length + 1)

private theorem isOuter_zero (tokens : List Token) : IsOuter tokens 0 :=
  fun start _ _ inGroup => Nat.not_lt_zero start inGroup.1

theorem isOuter_append {place : Nat} (balanced : Balanced left) :
    IsOuter (left ++ right) (left.length + place) ↔ IsOuter right place := by
  constructor
  · intro outer start inner group inGroup
    exact outer _ _ (group.append_left left) (by omega)
  · intro outer start inner group inGroup
    rcases group.of_append balanced with before | ⟨later, rfl, inRight⟩
    · omega
    · exact outer later inner inRight (by omega)

/-! ### Outlines -/

/-- What a scan leaves of the token at an outer place: the token itself, or the
value of the group that it opens, with its column. -/
inductive StandsFor (tokens : List Token) (place : Nat) : Token → Prop where
  | token {token : Token} (found : tokens[place]? = some token)
      (other : ¬ token.IsParenthesis) : StandsFor tokens place token
  | group {opening : Token} {inner : List Token} {value : Binary64}
      (found : tokens[place]? = some opening) (isGroup : GroupAt tokens place inner)
      (has : valueOfTokens inner = .ok value) :
      StandsFor tokens place ⟨.number value, opening.column⟩

theorem StandsFor.append_left {place : Nat} {shown : Token} (stands : StandsFor right place shown)
    (left : List Token) : StandsFor (left ++ right) (left.length + place) shown := by
  have shifted : (left ++ right)[left.length + place]? = right[place]? := by
    rw [List.getElem?_append_right (Nat.le_add_right _ _), Nat.add_sub_cancel_left]
  cases stands with
  | token found other => exact .token (shifted.trans found) other
  | group found isGroup has => exact .group (shifted.trans found) (isGroup.append_left left) has

/-- The tokens stand, one for one and in order, for those at the outer places. -/
structure IsOutline (tokens : List Token) (places : List Nat) (flat : List Token) : Prop where
  ascending : places.Pairwise (· < ·)
  mem_iff : ∀ place, place ∈ places ↔ place < tokens.length ∧ IsOuter tokens place
  stands : List.Forall₂ (StandsFor tokens) places flat

namespace IsOutline

theorem nil : IsOutline [] [] [] where
  ascending := .nil
  mem_iff := fun place => by simp
  stands := .nil

/-- Balanced tokens of which only the first is at an outer place are put in front. -/
theorem append_left {places : List Nat} {shown : Token} (outline : IsOutline right places flat)
    (balanced : Balanced left) (nonempty : left ≠ [])
    (hidden : ∀ place, 0 < place → place < left.length → ¬ IsOuter (left ++ right) place)
    (stands : StandsFor (left ++ right) 0 shown) :
    IsOutline (left ++ right) (0 :: places.map (left.length + ·)) (shown :: flat) where
  ascending := by
    have positive : 0 < left.length := List.length_pos_iff.mpr nonempty
    refine .cons ?_ (outline.ascending.map _ fun _ _ below => Nat.add_lt_add_left below _)
    intro place member
    obtain ⟨later, _, rfl⟩ := List.mem_map.mp member
    omega
  mem_iff := by
    have positive : 0 < left.length := List.length_pos_iff.mpr nonempty
    intro place
    rw [List.mem_cons, List.mem_map, List.length_append]
    constructor
    · rintro (rfl | ⟨later, member, rfl⟩)
      · exact ⟨by omega, isOuter_zero _⟩
      · obtain ⟨below, outer⟩ := (outline.mem_iff later).mp member
        exact ⟨by omega, (isOuter_append balanced).mpr outer⟩
    · rintro ⟨below, outer⟩
      by_cases inLeft : place < left.length
      · refine .inl (Nat.eq_zero_of_not_pos fun started => ?_)
        exact hidden place started inLeft outer
      · obtain ⟨later, rfl⟩ := Nat.exists_eq_add_of_le (Nat.le_of_not_lt inLeft)
        have isOuter := (isOuter_append balanced).mp outer
        exact .inr ⟨later, (outline.mem_iff later).mpr ⟨by omega, isOuter⟩, rfl⟩
  stands := by
    refine .cons stands (List.forall₂_map_left_iff.mpr ?_)
    exact outline.stands.imp fun _ _ stands => stands.append_left left

end IsOutline

theorem Collapses.exists_outline (collapses : Collapses tokens flat) :
    ∃ places, IsOutline tokens places flat := by
  induction collapses with
  | nil => exact ⟨[], .nil⟩
  | @keep token tokens flat notOpens notCloses _ inductionHypothesis =>
      obtain ⟨places, outline⟩ := inductionHypothesis
      have balanced : Balanced [token] := (Collapses.keep notOpens notCloses .nil).balanced
      have stands : StandsFor ([token] ++ tokens) 0 token :=
        .token rfl fun isParen => isParen.elim notOpens notCloses
      refine ⟨_, outline.append_left balanced (List.cons_ne_nil _ _) ?_ stands⟩
      intro place started below
      simp only [List.length_singleton] at below
      omega
  | @group opening closing inner innerFlat tokens flat value opens inside reduces closes _ _
      inductionHypothesis =>
      obtain ⟨places, outline⟩ := inductionHypothesis
      have whole : GroupAt (opening :: (inner ++ [closing]) ++ tokens) 0 inner :=
        ⟨[], tokens, opening, closing, by simp, rfl, opens, closes, inside.balanced⟩
      have has : valueOfTokens inner = .ok value :=
        bind_eq_ok_iff.mpr ⟨innerFlat, inside.flatten_eq_ok, reduces⟩
      have regrouped : opening :: (inner ++ closing :: tokens) =
          opening :: (inner ++ [closing]) ++ tokens := by simp
      rw [regrouped]
      refine ⟨_, outline.append_left (.group opens inside.balanced closes) (List.cons_ne_nil _ _)
        ?_ (.group rfl whole has)⟩
      intro place started below outer
      simp only [List.length_cons, List.length_append, List.length_nil] at below
      exact outer 0 inner whole (by omega)

theorem Collapses.not_isParenthesis (collapses : Collapses tokens flat) :
    ∀ token ∈ flat, ¬ token.IsParenthesis := by
  induction collapses with
  | nil => simp
  | keep notOpens notCloses _ inductionHypothesis =>
      exact List.forall_mem_cons.mpr
        ⟨fun isParen => isParen.elim notOpens notCloses, inductionHypothesis⟩
  | group _ _ _ _ _ _ inductionHypothesis =>
      refine List.forall_mem_cons.mpr ⟨?_, inductionHypothesis⟩
      rintro (⟨_, impossible⟩ | ⟨_, impossible⟩)
      · cases impossible
      · cases impossible

end Reckoner
