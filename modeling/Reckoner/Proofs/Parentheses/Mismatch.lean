import Reckoner.Proofs.Evaluation.Failure
import Reckoner.Proofs.Parentheses.Outline

/-!
Contract: what the scan for groups makes of parentheses without partner.

A scan fails at a closing parenthesis without partner, at the end inside the
last open parenthesis without one, or in a group that has no value, whichever
it meets first. Main statement: it succeeds only if every parenthesis has a
partner, and reports the first closing or the last open one that has none.

Owns: the faults of a scan, and the places that they report.

Does not own: which parentheses are partners, and what a scan leaves.
-/

namespace Reckoner

open Grammar (depth_append depth_cons depth_nil depthChange_of_closes)

variable {tokens left right flat : List Token}

/-! ### Faults of a scan -/

/-- Why the scan of tokens fails. -/
inductive ScanFault (tokens : List Token) : EvalError → Prop where
  | unmatchedClose {read after flat : List Token} {closing : Token}
      (split : tokens = read ++ closing :: after) (collapses : Collapses read flat)
      (closes : closing.Closes) :
      ScanFault tokens (.mismatchedParentheses (.unmatchedClose closing.column))
  | unmatchedOpen {group : OpenGroup} {outer : List OpenGroup} {around before flat : List Token}
      (split : tokens = around ++ before) (readAround : ReadBefore (group :: outer) around)
      (collapses : Collapses before flat) :
      ScanFault tokens (.mismatchedParentheses (.unmatchedOpen group.opening.column))
  | group {start : Nat} {inner innerFlat : List Token} {error : EvalError}
      (isGroup : GroupAt tokens start inner) (collapses : Collapses inner innerFlat)
      (fails : reduce innerFlat = .error error) : ScanFault tokens error

private theorem scanFault_of_flattenFrom {error : EvalError} :
    ∀ {groups : List OpenGroup} {current around before : List Token},
      flattenFrom groups current tokens = .error error → ReadBefore groups around →
        Collapses before current.reverse → ScanFault (around ++ before ++ tokens) error := by
  induction tokens with
  | nil =>
      intro groups current around before fails readAround collapses
      cases groups with
      | nil => cases fails
      | cons group outer =>
          cases fails
          exact .unmatchedOpen (List.append_nil _) readAround collapses
  | cons token rest inductionHypothesis =>
      intro groups current around before fails readAround collapses
      by_cases opens : token.Opens
      · rw [flattenFrom_of_opens opens] at fails
        have fault := inductionHypothesis fails (.cons opens readAround collapses) .nil
        simpa using fault
      by_cases closes : token.Closes
      · cases readAround with
        | nil =>
            rw [flattenFrom_of_closes_unpaired closes] at fails
            cases fails
            exact .unmatchedClose rfl collapses closes
        | @cons group outer outside beforeGroup opensGroup readOutside collapsesBefore =>
            rw [flattenFrom_of_closes closes] at fails
            have isGroup : GroupAt (outside ++ beforeGroup ++ [group.opening] ++ before ++
                token :: rest) (outside ++ beforeGroup).length before :=
              ⟨_, rest, group.opening, token, by simp, rfl, opensGroup, closes, collapses.balanced⟩
            cases reduces : reduce current.reverse with
            | error cause =>
                rw [reduces] at fails
                cases fails
                exact .group isGroup collapses reduces
            | ok value =>
                rw [reduces] at fails
                have closed : Collapses (beforeGroup ++ (group.opening :: (before ++ [token])))
                    (group.closeWith value).reverse := by
                  simpa [OpenGroup.closeWith] using
                    collapsesBefore.append (.group opensGroup collapses reduces closes .nil)
                have fault := inductionHypothesis fails readOutside closed
                simpa using fault
      · rw [flattenFrom_of_neither opens closes] at fails
        have kept : Collapses (before ++ [token]) (token :: current).reverse := by
          simpa using collapses.append (.keep opens closes .nil)
        have fault := inductionHypothesis fails readAround kept
        simpa using fault

private theorem scanFault_of_flatten {error : EvalError} (fails : flatten tokens = .error error) :
    ScanFault tokens error := by
  have fault : ScanFault ([] ++ [] ++ tokens) error := scanFault_of_flattenFrom fails .nil .nil
  exact fault

/-! ### The places of unpaired parentheses -/

/-- Behind tokens that collapse, a closing parenthesis is the first without partner. -/
theorem isLeast_unpaired_of_closes {read after : List Token} {closing : Token}
    (collapses : Collapses read flat) (closes : closing.Closes) :
    IsLeast (unpaired Token.Closes (read ++ closing :: after)) read.length := by
  constructor
  · refine ⟨⟨closing, by simp, closes⟩, ?_⟩
    rintro ⟨start, inner, group, isEnd⟩
    rcases group.of_append collapses.balanced with before | ⟨later, rfl, inRest⟩
    · omega
    · obtain ⟨opening, isFirst, opens⟩ := inRest.getElem?_eq_some.1
      have first : later = 0 := by omega
      subst first
      cases isFirst
      exact opens.not_closes closes
  · intro place lacks
    rcases unpaired_append lacks with inRead | ⟨later, _, rfl⟩
    · rw [collapses.unpaired_eq_empty fun _ => .inr] at inRead
      exact inRead.elim
    · exact Nat.le_add_right _ _

/-- Before tokens that collapse, an open parenthesis is the last without partner. -/
theorem isGreatest_unpaired_of_opens {around before : List Token} {opening : Token}
    (opens : opening.Opens) (collapses : Collapses before flat) :
    IsGreatest (unpaired Token.Opens (around ++ opening :: before)) around.length := by
  constructor
  · refine ⟨⟨opening, by simp, opens⟩, ?_⟩
    rintro ⟨start, inner, group, isEnd⟩
    rcases isEnd with rfl | isStop
    · -- A partner would leave the tokens before it at depth -1.
      obtain ⟨read, after, _, closing, split, sameLength, _, closes, inside⟩ := group
      obtain ⟨_, rest⟩ := List.append_inj split sameLength.symm
      have tail := (List.cons.inj rest).2
      have nonneg := collapses.balanced.prefix_nonneg (inner ++ [closing]) after (by simp [tail])
      rw [depth_append, depth_cons, depth_nil, depthChange_of_closes closes,
        inside.depth_eq_zero] at nonneg
      omega
    · obtain ⟨closing, isLast, closes⟩ := group.getElem?_eq_some.2
      rw [← isStop] at isLast
      simp only [List.getElem?_append_right (Nat.le_refl _), Nat.sub_self,
        List.getElem?_cons_zero, Option.some.injEq] at isLast
      rw [← isLast] at closes
      exact opens.not_closes closes
  · intro place lacks
    rw [← List.singleton_append, ← List.append_assoc] at lacks
    rcases unpaired_append lacks with inAround | ⟨later, inBefore, _⟩
    · have inside := lt_length_of_mem_unpaired inAround
      rw [List.length_append, List.length_singleton] at inside
      exact Nat.le_of_lt_succ inside
    · rw [collapses.unpaired_eq_empty fun _ => .inl] at inBefore
      exact inBefore.elim

private theorem unpaired_closes_of_readBefore {groups : List OpenGroup} {around : List Token}
    (readAround : ReadBefore groups around) : unpaired Token.Closes around = ∅ := by
  induction readAround with
  | nil => exact unpaired_nil
  | @cons group outer around before opens _ collapses inductionHypothesis =>
      have beforePaired : unpaired Token.Closes before = ∅ :=
        collapses.unpaired_eq_empty fun _ => .inr
      exact unpaired_append_eq_empty (unpaired_append_eq_empty inductionHypothesis beforePaired)
        (unpaired_singleton opens.not_closes)

/-! ### Mismatches -/

/-- Reducing a flat expression never reports a parenthesis. -/
theorem reduce_ne_mismatched {cause : UnpairedParenthesis} :
    reduce tokens ≠ .error (.mismatchedParentheses cause) := by
  intro fails
  have listed : ErrorKind.mismatchedParentheses ∈ reductionKinds := reduce_failsOnly tokens _ fails
  exact absurd listed (by decide)

theorem isLeast_of_unmatchedClose {column : Int}
    (fails : flatten tokens = .error (.mismatchedParentheses (.unmatchedClose column))) :
    ∃ place token, IsLeast (unpaired Token.Closes tokens) place ∧
      tokens[place]? = some token ∧ token.column = column := by
  generalize raised : EvalError.mismatchedParentheses (.unmatchedClose column) = error at fails
  cases scanFault_of_flatten fails with
  | @unmatchedClose read after flat closing split collapses closes =>
      cases raised
      rw [split]
      exact ⟨read.length, closing, isLeast_unpaired_of_closes collapses closes, by simp, rfl⟩
  | unmatchedOpen _ _ _ => cases raised
  | group _ _ reduced =>
      rw [← raised] at reduced
      exact absurd reduced reduce_ne_mismatched

theorem isGreatest_of_unmatchedOpen {column : Int}
    (fails : flatten tokens = .error (.mismatchedParentheses (.unmatchedOpen column))) :
    unpaired Token.Closes tokens = ∅ ∧
      ∃ place token, IsGreatest (unpaired Token.Opens tokens) place ∧
        tokens[place]? = some token ∧ token.column = column := by
  generalize raised : EvalError.mismatchedParentheses (.unmatchedOpen column) = error at fails
  cases scanFault_of_flatten fails with
  | unmatchedClose _ _ _ => cases raised
  | @unmatchedOpen group outer around before flat split readAround collapses =>
      cases raised
      have closesPaired : unpaired Token.Closes tokens = ∅ := by
        rw [split]
        exact unpaired_append_eq_empty (unpaired_closes_of_readBefore readAround)
          (collapses.unpaired_eq_empty fun _ => .inr)
      refine ⟨closesPaired, ?_⟩
      cases readAround with
      | @cons _ _ outside beforeGroup opens _ _ =>
          have parted : tokens = outside ++ beforeGroup ++ group.opening :: before := by
            simpa using split
          rw [parted]
          exact ⟨_, group.opening, isGreatest_unpaired_of_opens opens collapses, by simp, rfl⟩
  | group _ _ reduced =>
      rw [← raised] at reduced
      exact absurd reduced reduce_ne_mismatched

/-- A mismatch that is reported is there. -/
theorem exists_unpaired_of_mismatched {cause : UnpairedParenthesis}
    (fails : flatten tokens = .error (.mismatchedParentheses cause)) :
    (unpaired Token.IsParenthesis tokens).Nonempty := by
  cases cause with
  | unmatchedClose column =>
      obtain ⟨place, _, least, _⟩ := isLeast_of_unmatchedClose fails
      exact ⟨place, unpaired_mono (fun _ => .inr) tokens least.1⟩
  | unmatchedOpen column =>
      obtain ⟨_, place, _, greatest, _⟩ := isGreatest_of_unmatchedOpen fails
      exact ⟨place, unpaired_mono (fun _ => .inl) tokens greatest.1⟩

/-- If every group has a value, a scan can fail with nothing but a mismatch. -/
theorem exists_mismatch_of_fails {error : EvalError}
    (haveValues : ∀ start inner, GroupAt tokens start inner →
      ∃ value, valueOfTokens inner = .ok value) (fails : flatten tokens = .error error) :
    ∃ cause, flatten tokens = .error (.mismatchedParentheses cause) := by
  cases scanFault_of_flatten fails with
  | unmatchedClose _ _ _ => exact ⟨_, fails⟩
  | unmatchedOpen _ _ _ => exact ⟨_, fails⟩
  | @group start inner innerFlat _ isGroup collapses reduced =>
      obtain ⟨value, has⟩ := haveValues start inner isGroup
      rw [valueOfTokens, collapses.flatten_eq_ok] at has
      cases reduced.symm.trans has

/-- **The scan finds the parentheses without partner.** Without one it reports
none, and with one it does not succeed. It reports the first closing parenthesis
without partner, or, where every closing one has a partner, the last open one;
and it reports one of them exactly if there is any, unless a group has no value.
What it leaves are the tokens outside of all groups, and a number at the column
of each outermost open parenthesis. -/
theorem flatten_pairs_parentheses (tokens : List Token) :
    ((unpaired Token.IsParenthesis tokens).Nonempty → ¬ ∃ flat, flatten tokens = .ok flat) ∧
    (unpaired Token.IsParenthesis tokens = ∅ →
      ∀ cause, flatten tokens ≠ .error (.mismatchedParentheses cause)) ∧
    (∀ column, flatten tokens = .error (.mismatchedParentheses (.unmatchedClose column)) →
      ∃ place token, IsLeast (unpaired Token.Closes tokens) place ∧
        tokens[place]? = some token ∧ token.column = column) ∧
    (∀ column, flatten tokens = .error (.mismatchedParentheses (.unmatchedOpen column)) →
      unpaired Token.Closes tokens = ∅ ∧
        ∃ place token, IsGreatest (unpaired Token.Opens tokens) place ∧
          tokens[place]? = some token ∧ token.column = column) ∧
    ((∀ start inner, GroupAt tokens start inner → ∃ value, valueOfTokens inner = .ok value) →
      ((∃ cause, flatten tokens = .error (.mismatchedParentheses cause)) ↔
        (unpaired Token.IsParenthesis tokens).Nonempty)) ∧
    (∀ flat, flatten tokens = .ok flat →
      (∀ token ∈ flat, ¬ token.IsParenthesis) ∧ ∃ places, IsOutline tokens places flat) := by
  have notOk (lacks : (unpaired Token.IsParenthesis tokens).Nonempty) :
      ¬ ∃ flat, flatten tokens = .ok flat := by
    rintro ⟨flat, succeeds⟩
    rw [(flatten_eq_ok_iff.mp succeeds).unpaired_eq_empty fun _ => id] at lacks
    exact Set.not_nonempty_empty lacks
  refine ⟨notOk, ?_, fun _ => isLeast_of_unmatchedClose, fun _ => isGreatest_of_unmatchedOpen,
    ?_, ?_⟩
  · intro paired cause fails
    have lacks := exists_unpaired_of_mismatched fails
    rw [paired] at lacks
    exact Set.not_nonempty_empty lacks
  · intro haveValues
    refine ⟨fun ⟨_, fails⟩ => exists_unpaired_of_mismatched fails, fun lacks => ?_⟩
    cases scanned : flatten tokens with
    | ok flat => exact absurd ⟨flat, scanned⟩ (notOk lacks)
    | error error =>
        rw [← scanned]
        exact exists_mismatch_of_fails haveValues scanned
  · intro flat succeeds
    have collapses := flatten_eq_ok_iff.mp succeeds
    exact ⟨collapses.not_isParenthesis, collapses.exists_outline⟩

end Reckoner
