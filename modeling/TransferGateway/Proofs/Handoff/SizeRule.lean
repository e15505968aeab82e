import TransferGateway.Proofs.Handoff.Grammar
import TransferGateway.Proofs.Text.Words

/-!
# The rule of `-block`

A block size below the least one is passed over, and one above the greatest is refused.  The rule
covers the numerals of all integers, but a numeral is read as an integer of 64 bits first.  So an
integer below those is refused, although it is too small to count; for all others the rule holds.
-/

namespace TransferGateway.Handoff

/-- The least integer of 64 bits. -/
def leastInteger : Int := -(2 ^ 63)

/-- A numeral is read as a block size up to the greatest one, if it is an integer of 64 bits. -/
theorem readBlockSize_of_numeral {word : String} {n : Int}
    (h : Number.Numeral word.toList n) :
    readBlockSize word =
      if n < leastInteger ∨ (maxBlockSize : Int) < n then .error (.invalidBlockSize word)
      else if n < (minBlockSize : Int) then .ok none
      else .ok (some n.toNat) := by
  have hgreatest : (maxBlockSize : Int) = 2147483647 := rfl
  have hleast : (minBlockSize : Int) = 100 := rfl
  unfold readBlockSize leastInteger
  by_cases hfits : Number.FitsWord 64 n
  · have hread : Number.signedWithin? 64 10 word.toList = some n :=
      Number.signedWithin?_ten_eq_some_iff.2 ⟨h, hfits⟩
    have hlow : ¬ n < -(2 ^ 63) := Int.not_lt.2 hfits.1
    simp only [hread, hlow, false_or]
    by_cases hlarge : (maxBlockSize : Int) < n
    · have hcounts : ¬ n < (minBlockSize : Int) := by omega
      simp only [hcounts, hlarge, if_true, if_false]
    · simp only [hlarge, if_false]
  · -- What 64 bits do not hold lies on one of the two sides that are refused.
    have hread : Number.signedWithin? 64 10 word.toList = none :=
      Number.signedWithin?_ten_eq_none h hfits
    have hside : n < -(2 ^ 63) ∨ (maxBlockSize : Int) < n := by
      by_contra hwithin
      obtain ⟨hlow, hhigh⟩ := not_or.1 hwithin
      refine hfits ⟨Int.not_lt.1 hlow, ?_⟩
      norm_num
      omega
    simp only [hread, hside, if_true]

/-- The words of the mandatory flags and `-block`, joined by single spaces. -/
def sizedLine (host rule file size : String) : String :=
  joinWords [ValueFlag.host.word, host, ValueFlag.rule.word, rule, ValueFlag.file.word, file,
    ValueFlag.block.word, size]

/-- What the rule of `-block` promises for the numeral of an integer. -/
def promised (host rule file size : String) (n : Int) (default : Nat) :
    Except HandoffError Request :=
  if n < (minBlockSize : Int) then .ok ⟨host, rule, file, default, false, false, defaultInfo⟩
  else if n ≤ (maxBlockSize : Int) then
    .ok ⟨host, rule, file, n.toNat, false, false, defaultInfo⟩
  else .error (.invalidBlockSize size)

namespace Request

variable {host rule file size : String}

theorem parse_sizedLine (hhost : Text.IsWord host.toList) (hrule : Text.IsWord rule.toList)
    (hfile : Text.IsWord file.toList) (hsize : Text.IsWord size.toList) (default : Nat) :
    parse (sizedLine host rule file size) default =
      match readBlockSize size with
      | .error e => .error e
      | .ok size? =>
        .ok ⟨host, rule, file, size?.getD default, false, false, defaultInfo⟩ := by
  let line : Line :=
    ⟨[.value .host host, .value .rule rule, .value .file file, .value .block size], .plain⟩
  have hproper : line.Proper := ⟨by simp [line, Item.Proper], trivial⟩
  have hwords : line.words = wordsOf (sizedLine host rule file size) := by
    have hall : ∀ word ∈ [ValueFlag.host.word, host, ValueFlag.rule.word, rule,
        ValueFlag.file.word, file, ValueFlag.block.word, size], Text.IsWord word.toList := by
      have hflag : ∀ flag : ValueFlag, Text.IsWord flag.word.toList := by
        intro flag
        cases flag <;> decide
      simp [hflag, hhost, hrule, hfile, hsize]
    rw [sizedLine, wordsOf_joinWords_eq_self hall]
    rfl
  rw [parse_eq_ofLine hproper hwords (by simp [line, Line.words, Item.words])]
  simp only [ofLine, line, Draft.addAll, Draft.add]
  cases readBlockSize size with
  | error e => rfl
  | ok size? => cases size? <;> rfl

/-- The rule of `-block` is kept for exactly the integers that are not below those of 64 bits; the
others are refused, whatever the default block size is. -/
theorem parse_sizedLine_iff (hhost : Text.IsWord host.toList) (hrule : Text.IsWord rule.toList)
    (hfile : Text.IsWord file.toList) {n : Int} (hsize : Number.Numeral size.toList n)
    (default : Nat) :
    (parse (sizedLine host rule file size) default = promised host rule file size n default ↔
      leastInteger ≤ n) ∧
    (n < leastInteger →
      parse (sizedLine host rule file size) default = .error (.invalidBlockSize size)) := by
  have hparse := parse_sizedLine hhost hrule hfile hsize.isWord default
  have hleast : (minBlockSize : Int) = 100 := rfl
  have hgreatest : (maxBlockSize : Int) = 2147483647 := rfl
  rw [readBlockSize_of_numeral hsize] at hparse
  by_cases hlow : n < leastInteger
  · have hrefused : parse (sizedLine host rule file size) default =
        .error (.invalidBlockSize size) := by
      simpa only [hlow, true_or, if_true] using hparse
    have hsmall : n < (minBlockSize : Int) := by
      unfold leastInteger at hlow
      omega
    refine ⟨⟨fun hkept => ?_, fun hle => absurd hlow (Int.not_lt.2 hle)⟩, fun _ => hrefused⟩
    -- The rule promises a request for every size that is too small to count.
    rw [hrefused, promised, if_pos hsmall] at hkept
    contradiction
  · refine ⟨iff_of_true ?_ (Int.not_lt.1 hlow), fun h => absurd h hlow⟩
    rw [hparse]
    unfold promised
    by_cases hsmall : n < (minBlockSize : Int)
    · have hlarge : ¬ (maxBlockSize : Int) < n := by omega
      simp only [hlow, hsmall, hlarge, or_false, if_true, if_false]
      rfl
    · by_cases hlarge : (maxBlockSize : Int) < n
      · have hover : ¬ n ≤ (maxBlockSize : Int) := Int.not_le.2 hlarge
        simp only [hsmall, hlarge, hover, or_true, if_true, if_false]
      · have hwithin : n ≤ (maxBlockSize : Int) := Int.not_lt.1 hlarge
        simp only [hlow, hsmall, hlarge, hwithin, or_false, if_true, if_false]
        rfl

/-- The least integer of 64 bits is passed over, and the one below it is refused. -/
theorem parse_sizedLine_leastInteger :
    parse (sizedLine "-to" "push" "a.dat" "-9223372036854775808") 65536 =
        promised "-to" "push" "a.dat" "-9223372036854775808" (-9223372036854775808) 65536 ∧
      parse (sizedLine "-to" "push" "a.dat" "-09223372036854775809") 65536 =
        .error (.invalidBlockSize "-09223372036854775809") := by
  have hhost : Text.IsWord "-to".toList := by decide
  have hrule : Text.IsWord "push".toList := by decide
  have hfile : Text.IsWord "a.dat".toList := by decide
  have hleast : Number.Numeral "-9223372036854775808".toList (-9223372036854775808) :=
    Number.signed?_ten_eq_some_iff.1 (by decide)
  have hbelow : Number.Numeral "-09223372036854775809".toList (-9223372036854775809) :=
    Number.signed?_ten_eq_some_iff.1 (by decide)
  exact ⟨(parse_sizedLine_iff hhost hrule hfile hleast 65536).1.2 (by decide),
    (parse_sizedLine_iff hhost hrule hfile hbelow 65536).2 (by decide)⟩

/-- An integer that is too small to count is refused instead of being passed over. -/
theorem small_size_refused :
    Number.Numeral "-9223372036854775809".toList (-9223372036854775809) ∧
      promised "H" "R" "F" "-9223372036854775809" (-9223372036854775809) 65536 =
        .ok ⟨"H", "R", "F", 65536, false, false, "noinfo"⟩ ∧
      parse (sizedLine "H" "R" "F" "-9223372036854775809") 65536 =
        .error (.invalidBlockSize "-9223372036854775809") := by
  have hnumeral : Number.Numeral "-9223372036854775809".toList (-9223372036854775809) :=
    Number.signed?_ten_eq_some_iff.1 (by decide)
  exact ⟨hnumeral, rfl, rfl⟩

example : sizedLine "H" "R" "F" "50" = "-to H -rule R -file F -block 50" := rfl

end Request

end TransferGateway.Handoff
