import TransferGateway.Proofs.Deployment.BlockSizes
import TransferGateway.Proofs.Handoff.Rearrangement
import TransferGateway.Proofs.Handoff.SizeRule

/-!
# The canonical form of hand-off lines

Every request that can be read can be written as a line that has all its flags in a fixed order, and
that line is read as the same request.
-/

namespace TransferGateway.Handoff

namespace Request

/-- A request that a line can be read as, under a default block size that fits. -/
structure Writable (request : Request) : Prop where
  host : Text.IsWord request.host.toList
  rule : Text.IsWord request.rule.toList
  file : Text.IsWord request.file.toList
  least : minBlockSize ≤ request.blockSize
  greatest : request.blockSize ≤ maxBlockSize
  info : ∃ first rest, (∀ word ∈ first :: rest, Text.IsWord word.toList) ∧
    request.info = joinWords (first :: rest)

/-- A block size in decimal. -/
def sizeWord (size : Nat) : String := String.ofList (Number.decimalDigits size)

/-- The items of a request in their fixed order. -/
def items (request : Request) : List Item :=
  [.value .host request.host, .value .rule request.rule, .value .file request.file,
      .value .block (sizeWord request.blockSize)] ++
    (if request.checksum then [.switch .checksum] else []) ++
    (if request.quiet then [.switch .quiet] else [])

/-- The canonical line of a request: its items, and its information text at the end. -/
def text (request : Request) : String :=
  joinWords (request.items.flatMap Item.words ++ [Flag.info.word, request.info])

theorem numeral_sizeWord (size : Nat) : Number.Numeral (sizeWord size).toList size := by
  rw [sizeWord, String.toList_ofList]
  exact Number.numeral_decimalDigits size

theorem readBlockSize_sizeWord {size : Nat} (hleast : minBlockSize ≤ size)
    (hgreatest : size ≤ maxBlockSize) : readBlockSize (sizeWord size) = .ok (some size) := by
  have hwithin : ¬ ((size : Int) < leastInteger ∨ (maxBlockSize : Int) < size) := by
    unfold leastInteger
    omega
  have hcounts : ¬ (size : Int) < (minBlockSize : Int) := by omega
  rw [readBlockSize_of_numeral (numeral_sizeWord size), if_neg hwithin, if_neg hcounts,
    Int.toNat_natCast]

section

variable {request : Request} {first : String} {rest : List String}

/-- The canonical line of a request, grouped. -/
theorem proper_items (request : Request) (ending : Ending) (hending : ending.Proper) :
    (Line.mk request.items ending).Proper := by
  refine ⟨?_, hending⟩
  intro item hitem
  cases item with
  | unknown word =>
    -- No item of a request is an unknown word.
    cases hchecksum : request.checksum <;> cases hquiet : request.quiet <;>
      simp [items, hchecksum, hquiet] at hitem
  | _ => trivial

theorem isWord_items (h : request.Writable) :
    ∀ word ∈ request.items.flatMap Item.words, Text.IsWord word.toList := by
  have hvalue : ∀ flag : ValueFlag, Text.IsWord flag.word.toList := by
    intro flag
    cases flag <;> decide
  have hswitch : ∀ flag : Switch, Text.IsWord flag.word.toList := by
    intro flag
    cases flag <;> decide
  have hsize : Text.IsWord (sizeWord request.blockSize).toList :=
    (numeral_sizeWord request.blockSize).isWord
  cases hchecksum : request.checksum <;> cases hquiet : request.quiet <;>
    simp [items, hchecksum, hquiet, Item.words, hvalue, hswitch, hsize, h.host, h.rule, h.file]

theorem wordsOf_text (h : request.Writable)
    (hinfo : ∀ word ∈ first :: rest, Text.IsWord word.toList)
    (hjoin : request.info = joinWords (first :: rest)) :
    wordsOf request.text = (Line.mk request.items (.info first rest)).words := by
  have hflag : Text.IsWord Flag.info.word.toList := by decide
  have hitems : (request.items.flatMap Item.words).flatMap wordsOf =
      request.items.flatMap Item.words := by
    rw [← wordsOf_joinWords, wordsOf_joinWords_eq_self (isWord_items h)]
  rw [text, wordsOf_joinWords, List.flatMap_append, hitems, List.flatMap_cons,
    List.flatMap_singleton, wordsOf_eq_singleton hflag, hjoin, wordsOf_joinWords_eq_self hinfo]
  rfl

theorem addAll_items (h : request.Writable) :
    Draft.addAll {} request.items =
      .ok ⟨some request.host, some request.rule, some request.file, some request.blockSize,
        request.checksum, request.quiet⟩ := by
  have hread := readBlockSize_sizeWord h.least h.greatest
  cases hchecksum : request.checksum <;> cases hquiet : request.quiet <;>
    simp [items, hchecksum, hquiet, Draft.addAll, Draft.add, hread]

/-- The canonical line of a request is read as that request. -/
theorem parse_text (h : request.Writable) (default : Nat) :
    parse request.text default = .ok request := by
  obtain ⟨first, rest, hinfo, hjoin⟩ := h.info
  have hwords := wordsOf_text h hinfo hjoin
  have hne : (Line.mk request.items (.info first rest)).words ≠ [] := by
    simp [Line.words, Ending.words]
  have hproper := proper_items request (.info first rest) trivial
  rw [parse_eq_ofLine hproper hwords.symm hne, ofLine]
  simp only [addAll_items h, ofDraft, Option.getD_some, ← hjoin]

theorem isWord_of_gives {line : Line} {text : String} (hwords : line.words = wordsOf text)
    {flag : ValueFlag} {value : String} (h : Settles (Gives flag) line.items (some value)) :
    Text.IsWord value.toList := by
  have hmem : value ∈ line.words := by
    have hitem : value ∈ line.items.flatMap Item.words :=
      List.mem_flatMap.2 ⟨.value flag value, h.mem, by simp [Item.words]⟩
    exact List.mem_append_left _ hitem
  rw [hwords] at hmem
  exact isWord_of_mem_wordsOf hmem

/-- The information text of a line is one of words, also where it is the default one. -/
theorem exists_info {ending : Ending} {info : String}
    (hwords : ∀ word ∈ ending.words, Text.IsWord word.toList)
    (h : ending.info? = some info) :
    ∃ first rest, (∀ word ∈ first :: rest, Text.IsWord word.toList) ∧
      info = joinWords (first :: rest) := by
  cases ending with
  | plain =>
    obtain rfl := Option.some.inj h
    exact ⟨defaultInfo, [], by decide, rfl⟩
  | info first rest =>
    obtain rfl := Option.some.inj h
    exact ⟨first, rest, fun word hword => hwords word (List.mem_cons_of_mem _ hword), rfl⟩
  | unfinished flag => cases h

/-- What a line is read as can be written. -/
theorem writable_of_parse {text : String} {default : Nat} (hleast : minBlockSize ≤ default)
    (hgreatest : default ≤ maxBlockSize) (h : parse text default = .ok request) :
    request.Writable := by
  obtain ⟨hproper, hwords⟩ := Line.proper_and_words_iff.2 (rfl : Line.ofWords (wordsOf text) = _)
  have hsize : Fits request.blockSize :=
    (fits_blockSize_iff hleast h).2 (.inl hgreatest)
  cases (parse_eq_iff hproper hwords _).1 h with
  | complete _ hrequest =>
    have hending : ∀ word ∈ (Line.ofWords (wordsOf text)).ending.words,
        Text.IsWord word.toList := by
      intro word hword
      have hmem : word ∈ (Line.ofWords (wordsOf text)).words := List.mem_append_right _ hword
      rw [hwords] at hmem
      exact isWord_of_mem_wordsOf hmem
    exact ⟨isWord_of_gives hwords hrequest.host, isWord_of_gives hwords hrequest.rule,
      isWord_of_gives hwords hrequest.file, hsize.least, hsize.greatest,
      exists_info hending hrequest.info⟩

end

/-- A request that can be written is read back from its canonical line, under every default block
size, and every request that is read can be written, if the default block size fits.  Lines of at
least one word that end alike and whose items are rearranged have the same answer. -/
theorem parse_canonical :
    (∀ (request : Request) (default : Nat), request.Writable →
      parse request.text default = .ok request) ∧
    (∀ (text : String) (default : Nat) (request : Request), minBlockSize ≤ default →
      default ≤ maxBlockSize → parse text default = .ok request → request.Writable) ∧
    ∀ (text₁ text₂ : String) (line₁ line₂ : Line) (default : Nat),
      line₁.Proper → line₁.words = wordsOf text₁ → line₂.Proper → line₂.words = wordsOf text₂ →
      Rearranged line₁.items line₂.items → line₁.ending = line₂.ending →
      line₁.words ≠ [] → line₂.words ≠ [] → parse text₁ default = parse text₂ default := by
  refine ⟨?_, ?_, ?_⟩
  · intro request default h
    exact parse_text h default
  · intro text default request hleast hgreatest h
    exact writable_of_parse hleast hgreatest h
  · rintro text₁ text₂ ⟨items₁, ending⟩ ⟨items₂, ending₂⟩ default hproper₁ hwords₁ hproper₂ hwords₂
      hitems hending hne₁ hne₂
    obtain rfl : ending = ending₂ := hending
    have hanswer := (parse_eq_iff hproper₁ hwords₁ (parse text₁ default)).1 rfl
    exact ((parse_eq_iff hproper₂ hwords₂ _).2 (hitems.answers hne₁ hne₂ hanswer)).symm

/-- A request whose values look like flags. -/
def flagged : Request := ⟨"-info", "-to", "-nolog", 100, true, false, "-md5 -file"⟩

/-- The items of a line, and the same ones in another order, with another unknown word. -/
def shuffled : Line × Line :=
  (⟨[.value .file "-md5", .unknown "x", .switch .quiet, .value .block "big", .value .file "-to",
      .value .block "+7"], .info "-rule" []⟩,
    ⟨[.value .block "big", .value .file "-md5", .value .block "+7", .unknown "y",
      .value .file "-to", .switch .quiet], .info "-rule" []⟩)

theorem rearranged_shuffled : Rearranged shuffled.1.items shuffled.2.items := by
  let bare : List Item := [.value .file "-md5", .switch .quiet, .value .block "big",
    .value .file "-to", .value .block "+7"]
  let permuted : List Item := [.value .block "big", .value .file "-md5", .value .block "+7",
    .value .file "-to", .switch .quiet]
  have hremoved : Rearranged shuffled.1.items bare := (Rearranged.insert [_] _ "x").symm
  have hpermuted : Rearranged bare permuted :=
    .of_perm (by decide) fun flag => by cases flag <;> decide
  have hinserted : Rearranged permuted shuffled.2.items := .insert [_, _, _] _ "y"
  exact (hremoved.trans hpermuted).trans hinserted

/-- A request of flags is read back, the request of another line is written, and both orders of the
items have the first bad block size for an answer. -/
theorem parse_flagged :
    parse flagged.text 7 = .ok flagged ∧ flagged.text =
        "-to -info -rule -to -file -nolog -block 100 -md5 -info -md5 -file" ∧
      (Request.mk "h" "r" "f" 65536 false true defaultInfo).Writable ∧
      parse (joinWords shuffled.1.words) 7 = parse (joinWords shuffled.2.words) 7 ∧
      parse (joinWords shuffled.2.words) 7 = .error (.invalidBlockSize "big") := by
  have hflagged : flagged.Writable :=
    ⟨by decide, by decide, by decide, by decide, by decide, "-md5", ["-file"], by decide, rfl⟩
  obtain ⟨hback, hwritable, hsame⟩ := parse_canonical
  refine ⟨hback flagged 7 hflagged, rfl, ?_, ?_, rfl⟩
  · exact hwritable "-rule r -nolog -to h junk -file f" 65536 _ (by decide) (by decide) rfl
  · have hwords₁ : shuffled.1.words = wordsOf (joinWords shuffled.1.words) := rfl
    have hwords₂ : shuffled.2.words = wordsOf (joinWords shuffled.2.words) := rfl
    have hproper₁ : shuffled.1.Proper := Line.proper_ofWords shuffled.1.words
    have hproper₂ : shuffled.2.Proper := Line.proper_ofWords shuffled.2.words
    exact hsame _ _ shuffled.1 shuffled.2 7 hproper₁ hwords₁ hproper₂ hwords₂ rearranged_shuffled
      rfl (by decide) (by decide)

end Request

end TransferGateway.Handoff
