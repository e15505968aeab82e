import Mathlib.Data.List.Induction
import TransferGateway.Proofs.Handoff.Lines
import TransferGateway.Proofs.Number.Numeral

/-!
# The grammar of hand-off lines

The words of a hand-off line can be grouped in one way only.  The answer to a line is then told by
its items alone: the first fault of the scan decides, after that the first mandatory flag that no
item gives, and a complete request has from each flag what its last item gives.
-/

namespace TransferGateway.Handoff

/-! ## Groupings of words -/

/-- An item that can stand in a line: a word is unknown only if it is no flag. -/
def Item.Proper : Item → Prop
  | .unknown word => ∀ flag : Flag, word ≠ flag.word
  | _ => True

/-- An ending that a line can have: only a flag that takes a value can lack it. -/
def Ending.Proper : Ending → Prop
  | .unfinished (.switch _) => False
  | _ => True

/-- A line that is grouped by the rules. -/
structure Line.Proper (line : Line) : Prop where
  items : ∀ item ∈ line.items, item.Proper
  ending : line.ending.Proper

theorem Flag.ofWord?_word (flag : Flag) : Flag.ofWord? flag.word = some flag := by
  cases flag with
  | value flag => cases flag <;> decide
  | switch flag => cases flag <;> decide
  | info => decide

theorem Flag.ofWord?_eq_none_iff {word : String} :
    Flag.ofWord? word = none ↔ ∀ flag : Flag, word ≠ flag.word := by
  constructor
  · rintro h flag rfl
    simp [Flag.ofWord?_word] at h
  · intro h
    cases hflag : Flag.ofWord? word with
    | none => rfl
    | some flag => exact absurd (Flag.word_of_ofWord? hflag).symm (h flag)

namespace Line

theorem Proper.cons {line : Line} (h : line.Proper) {item : Item} (hitem : item.Proper) :
    (Line.cons item line).Proper where
  items := List.forall_mem_cons.2 ⟨hitem, h.items⟩
  ending := h.ending

/-- Words are grouped by the rules. -/
theorem proper_ofWords (ws : List String) : (ofWords ws).Proper := by
  fun_induction ofWords ws with
  | case1 => exact ⟨fun _ h => absurd h List.not_mem_nil, trivial⟩
  | case2 word rest h ih => exact ih.cons (Flag.ofWord?_eq_none_iff.1 h)
  | case3 word rest flag h ih => exact ih.cons trivial
  | case4 word flag h => exact ⟨fun _ h => absurd h List.not_mem_nil, trivial⟩
  | case5 word flag h value more ih => exact ih.cons trivial
  | case6 word h => exact ⟨fun _ h => absurd h List.not_mem_nil, trivial⟩
  | case7 word h first more => exact ⟨fun _ h => absurd h List.not_mem_nil, trivial⟩

theorem ofWords_ending {ending : Ending} (h : ending.Proper) :
    ofWords ending.words = ⟨[], ending⟩ := by
  cases ending with
  | plain => rfl
  | info first rest => simp only [Ending.words, ofWords, Flag.ofWord?_word]
  | unfinished flag =>
    cases flag with
    | value flag => simp only [Ending.words, ofWords, Flag.ofWord?_word]
    | switch flag => exact absurd h not_false
    | info => simp only [Ending.words, ofWords, Flag.ofWord?_word]

theorem ofWords_item {item : Item} (h : item.Proper) (rest : List String) :
    ofWords (item.words ++ rest) = cons item (ofWords rest) := by
  cases item with
  | value flag word =>
    have hflag : Flag.ofWord? flag.word = some (.value flag) := Flag.ofWord?_word (.value flag)
    simp only [Item.words, List.cons_append, List.nil_append, ofWords, hflag]
  | switch flag =>
    have hflag : Flag.ofWord? flag.word = some (.switch flag) := Flag.ofWord?_word (.switch flag)
    simp only [Item.words, List.cons_append, List.nil_append]
    -- The equations of the reader look two words ahead, where nothing is known of the rest.
    rw [ofWords.eq_def]
    simp only [hflag]
  | unknown word =>
    have hflag : Flag.ofWord? word = none := Flag.ofWord?_eq_none_iff.2 h
    simp only [Item.words, List.cons_append, List.nil_append]
    rw [ofWords.eq_def]
    simp only [hflag]

/-- A line that is grouped by the rules is the grouping of its words. -/
theorem ofWords_words {line : Line} (h : line.Proper) : ofWords line.words = line := by
  obtain ⟨items, ending⟩ := line
  obtain ⟨hitems, hending⟩ := h
  induction items with
  | nil => exact ofWords_ending hending
  | cons item rest ih =>
    have hrest : ofWords (rest.flatMap Item.words ++ ending.words) = ⟨rest, ending⟩ :=
      ih (fun other hother => hitems other (List.mem_cons_of_mem _ hother)) hending
    have hitem : item.Proper := hitems item List.mem_cons_self
    show ofWords ((item :: rest).flatMap Item.words ++ ending.words) = _
    rw [List.flatMap_cons, List.append_assoc, ofWords_item hitem, hrest]
    rfl

/-- There is one grouping of words by the rules. -/
theorem proper_and_words_iff {line : Line} {ws : List String} :
    line.Proper ∧ line.words = ws ↔ line = ofWords ws := by
  constructor
  · rintro ⟨h, rfl⟩
    exact (ofWords_words h).symm
  · rintro rfl
    exact ⟨proper_ofWords ws, words_ofWords ws⟩

end Line

/-! ## What items settle -/

/-- What the items give, if every item that gives something takes the place of earlier ones: the
value of the last item that gives one, or nothing if none does. -/
def Settles {α : Type} (gives : Item → α → Prop) (items : List Item) : Option α → Prop
  | none => ∀ item ∈ items, ∀ value, ¬ gives item value
  | some value => ∃ earlier item later, items = earlier ++ item :: later ∧ gives item value ∧
      ∀ other ∈ later, ∀ value, ¬ gives other value

namespace Settles

variable {α : Type} {gives : Item → α → Prop} {items : List Item} {value? : Option α}

theorem start (gives : Item → α → Prop) : Settles gives [] none :=
  fun _ h => absurd h List.not_mem_nil

/-- An item that gives nothing leaves things settled as they are. -/
theorem keep (h : Settles gives items value?) {item : Item} (hitem : ∀ value, ¬ gives item value) :
    Settles gives (items ++ [item]) value? := by
  cases value? with
  | none =>
    intro other hother
    rcases List.mem_append.1 hother with hmem | hmem
    · exact h other hmem
    · obtain rfl := List.mem_singleton.1 hmem
      exact hitem
  | some value =>
    obtain ⟨earlier, giver, later, rfl, hgives, hlater⟩ := h
    refine ⟨earlier, giver, later ++ [item], by simp, hgives, ?_⟩
    intro other hother
    rcases List.mem_append.1 hother with hmem | hmem
    · exact hlater other hmem
    · obtain rfl := List.mem_singleton.1 hmem
      exact hitem

/-- An item that gives a value settles it. -/
theorem give (items : List Item) {item : Item} {value : α} (hitem : gives item value) :
    Settles gives (items ++ [item]) (some value) :=
  ⟨items, item, [], rfl, hitem, fun _ h => absurd h List.not_mem_nil⟩

/-- Items settle one thing only, provided that each gives one thing only. -/
theorem unique (hgives : ∀ item v w, gives item v → gives item w → v = w)
    {other? : Option α} (h : Settles gives items value?) (h' : Settles gives items other?) :
    value? = other? := by
  cases value? with
  | none =>
    cases other? with
    | none => rfl
    | some other =>
      obtain ⟨earlier, giver, later, rfl, hother, -⟩ := h'
      exact absurd hother (h giver (by simp) other)
  | some value =>
    cases other? with
    | none =>
      obtain ⟨earlier, giver, later, rfl, hvalue, -⟩ := h
      exact absurd hvalue (h' giver (by simp) value)
    | some other =>
      obtain ⟨earlier, giver, later, rfl, hvalue, hlater⟩ := h
      obtain ⟨earlier', giver', later', hsplit, hother, hlater'⟩ := h'
      -- If one giver stood behind the other, the other would not be the last.
      rcases List.append_eq_append_iff.1 hsplit with
        ⟨between, -, hrest⟩ | ⟨between, -, hrest⟩
      · cases between with
        | nil =>
          obtain ⟨rfl, -⟩ := List.cons.inj hrest
          exact congrArg some (hgives _ _ _ hvalue hother)
        | cons first rest =>
          obtain ⟨rfl, rfl⟩ := List.cons.inj hrest
          exact absurd hother (hlater giver' (by simp) other)
      · cases between with
        | nil =>
          obtain ⟨rfl, -⟩ := List.cons.inj hrest
          exact congrArg some (hgives _ _ _ hvalue hother)
        | cons first rest =>
          obtain ⟨rfl, rfl⟩ := List.cons.inj hrest
          exact absurd hvalue (hlater' giver (by simp) value)

end Settles

/-- An item gives a flag the value. -/
def Gives (flag : ValueFlag) (item : Item) (value : String) : Prop := item = .value flag value

theorem Settles.eq_none_iff {flag : ValueFlag} {items : List Item} {value? : Option String}
    (h : Settles (Gives flag) items value?) :
    value? = none ↔ ∀ word, .value flag word ∉ items := by
  cases value? with
  | none =>
    refine ⟨fun _ word hword => ?_, fun _ => rfl⟩
    exact h _ hword word rfl
  | some value =>
    obtain ⟨earlier, item, later, rfl, rfl, -⟩ := h
    refine ⟨fun hnone => by simp at hnone, fun hnone => ?_⟩
    exact absurd (hnone value) (by simp)

theorem Settles.exists_of_mem {flag : ValueFlag} {items : List Item} {value? : Option String}
    (h : Settles (Gives flag) items value?) {word : String} (hmem : .value flag word ∈ items) :
    ∃ value, value? = some value := by
  cases value? with
  | none => exact absurd hmem (h.eq_none_iff.1 rfl word)
  | some value => exact ⟨value, rfl⟩

theorem Settles.mem {flag : ValueFlag} {items : List Item} {value : String}
    (h : Settles (Gives flag) items (some value)) : .value flag value ∈ items := by
  obtain ⟨earlier, item, later, rfl, rfl, -⟩ := h
  simp

theorem Gives.unique {flag : ValueFlag} (item : Item) (v w : String) (hv : Gives flag item v)
    (hw : Gives flag item w) : v = w := by
  cases hv
  cases hw
  rfl

/-- A word is the numeral of an integer of 64 bits. -/
def IsInteger (word : String) (n : Int) : Prop :=
  Number.Numeral word.toList n ∧ Number.FitsWord 64 n

/-- A word that can stand behind `-block`: an integer that is not too large. -/
def IsBlockSize (word : String) : Prop := ∃ n, IsInteger word n ∧ n ≤ maxBlockSize

/-- An item gives a block size: one that is large enough to count. -/
def GivesSize (item : Item) (size : Nat) : Prop :=
  ∃ word, item = .value .block word ∧ IsInteger word size ∧ minBlockSize ≤ size

theorem IsInteger.unique {word : String} {m n : Int} (hm : IsInteger word m)
    (hn : IsInteger word n) : m = n :=
  hm.1.unique hn.1

theorem GivesSize.unique (item : Item) (m n : Nat) (hm : GivesSize item m)
    (hn : GivesSize item n) : m = n := by
  obtain ⟨word, rfl, hword, -⟩ := hm
  obtain ⟨word', hitem, hword', -⟩ := hn
  obtain ⟨-, rfl⟩ := Item.value.inj hitem
  exact Int.ofNat.inj (hword.unique hword')

/-- What is read from the value of `-block`. -/
theorem readBlockSize_cases (word : String) :
    (¬ IsBlockSize word ∧ readBlockSize word = .error (.invalidBlockSize word)) ∨
      (IsBlockSize word ∧ readBlockSize word = .ok none ∧
        ∀ size, ¬ GivesSize (.value .block word) size) ∨
      (IsBlockSize word ∧ ∃ size, readBlockSize word = .ok (some size) ∧
        GivesSize (.value .block word) size) := by
  have hword (n : Int) : Number.signedWithin? 64 10 word.toList = some n ↔ IsInteger word n :=
    Number.signedWithin?_ten_eq_some_iff
  have hbounds : (minBlockSize : Int) ≤ maxBlockSize := by decide
  unfold readBlockSize
  cases hread : Number.signedWithin? 64 10 word.toList with
  | none =>
    have hnone : ¬ IsBlockSize word := by
      rintro ⟨n, hn, -⟩
      simp [(hword n).2 hn] at hread
    exact .inl ⟨hnone, rfl⟩
  | some n =>
    have hn : IsInteger word n := (hword n).1 hread
    by_cases hsmall : n < (minBlockSize : Int)
    · have hgives : ∀ size, ¬ GivesSize (.value .block word) size := by
        rintro size ⟨word', hitem, hsize, hlarge⟩
        obtain ⟨-, rfl⟩ := Item.value.inj hitem
        obtain rfl := hn.unique hsize
        omega
      exact .inr (.inl ⟨⟨n, hn, by omega⟩, if_pos hsmall, hgives⟩)
    · simp only [hsmall, if_false]
      by_cases hlarge : (maxBlockSize : Int) < n
      · have hnone : ¬ IsBlockSize word := by
          rintro ⟨m, hm, hle⟩
          obtain rfl := hn.unique hm
          omega
        exact .inl ⟨hnone, if_pos hlarge⟩
      · have hcast : (n.toNat : Int) = n := Int.toNat_of_nonneg (by omega)
        have hgives : GivesSize (.value .block word) n.toNat :=
          ⟨word, rfl, hcast.symm ▸ hn, by omega⟩
        exact .inr (.inr ⟨⟨n, hn, by omega⟩, n.toNat, if_neg hlarge, hgives⟩)

/-- What some items of a line have said, if all their block sizes can be read. -/
structure Draft.Of (items : List Item) (draft : Draft) : Prop where
  host : Settles (Gives .host) items draft.host
  rule : Settles (Gives .rule) items draft.rule
  file : Settles (Gives .file) items draft.file
  blockSize : Settles GivesSize items draft.blockSize
  checksum : draft.checksum = true ↔ .switch .checksum ∈ items
  quiet : draft.quiet = true ↔ .switch .quiet ∈ items

namespace Draft

theorem Of.start : Of [] {} where
  host := .start _
  rule := .start _
  file := .start _
  blockSize := .start _
  checksum := by simp
  quiet := by simp

/-- One more item is taken in, or it asks for a block size that cannot be read. -/
theorem Of.add {items : List Item} {draft : Draft} (h : Of items draft) (item : Item) :
    (∃ next, draft.add item = .ok next ∧ Of (items ++ [item]) next ∧
        ∀ word, item = .value .block word → IsBlockSize word) ∨
      ∃ word, item = .value .block word ∧ ¬ IsBlockSize word ∧
        draft.add item = .error (.invalidBlockSize word) := by
  have hkeep (flag : ValueFlag) {value? : Option String} (hne : ∀ word, item ≠ .value flag word)
      (hsettles : Settles (Gives flag) items value?) :
      Settles (Gives flag) (items ++ [item]) value? := hsettles.keep hne
  have hsize (hne : ∀ word, item ≠ .value .block word) :
      Settles GivesSize (items ++ [item]) draft.blockSize :=
    h.blockSize.keep fun _ ⟨word, hword, _⟩ => hne word hword
  have hswitch (flag : Switch) (hne : item ≠ .switch flag) :
      .switch flag ∈ items ↔ .switch flag ∈ items ++ [item] := by
    simp [hne.symm]
  cases item with
  | unknown word =>
    refine .inl ⟨draft, rfl, ?_, by simp⟩
    exact ⟨hkeep .host (by simp) h.host, hkeep .rule (by simp) h.rule,
      hkeep .file (by simp) h.file, hsize (by simp), h.checksum.trans (hswitch _ (by simp)),
      h.quiet.trans (hswitch _ (by simp))⟩
  | switch flag =>
    cases flag with
    | checksum =>
      refine .inl ⟨{ draft with checksum := true }, rfl, ?_, by simp⟩
      exact ⟨hkeep .host (by simp) h.host, hkeep .rule (by simp) h.rule,
        hkeep .file (by simp) h.file, hsize (by simp), by simp,
        h.quiet.trans (hswitch _ (by simp))⟩
    | quiet =>
      refine .inl ⟨{ draft with quiet := true }, rfl, ?_, by simp⟩
      exact ⟨hkeep .host (by simp) h.host, hkeep .rule (by simp) h.rule,
        hkeep .file (by simp) h.file, hsize (by simp), h.checksum.trans (hswitch _ (by simp)),
        by simp⟩
  | value flag word =>
    have hchecksum := h.checksum.trans (hswitch .checksum (by simp))
    have hquiet := h.quiet.trans (hswitch .quiet (by simp))
    cases flag with
    | host =>
      refine .inl ⟨{ draft with host := some word }, rfl, ?_, by simp⟩
      exact ⟨.give items rfl, hkeep .rule (by simp) h.rule, hkeep .file (by simp) h.file,
        hsize (by simp), hchecksum, hquiet⟩
    | rule =>
      refine .inl ⟨{ draft with rule := some word }, rfl, ?_, by simp⟩
      exact ⟨hkeep .host (by simp) h.host, .give items rfl, hkeep .file (by simp) h.file,
        hsize (by simp), hchecksum, hquiet⟩
    | file =>
      refine .inl ⟨{ draft with file := some word }, rfl, ?_, by simp⟩
      exact ⟨hkeep .host (by simp) h.host, hkeep .rule (by simp) h.rule, .give items rfl,
        hsize (by simp), hchecksum, hquiet⟩
    | block =>
      have hhost := hkeep .host (by simp) h.host
      have hrule := hkeep .rule (by simp) h.rule
      have hfile := hkeep .file (by simp) h.file
      rcases readBlockSize_cases word with ⟨hbad, hread⟩ | ⟨hgood, hread, hnone⟩ |
        ⟨hgood, size, hread, hgives⟩
      · exact .inr ⟨word, rfl, hbad, by simp only [Draft.add, hread]⟩
      · refine .inl ⟨draft, by simp only [Draft.add, hread], ?_, ?_⟩
        · exact ⟨hhost, hrule, hfile, h.blockSize.keep hnone, hchecksum, hquiet⟩
        · rintro _ ⟨⟩
          exact hgood
      · refine .inl ⟨{ draft with blockSize := some size }, by simp only [Draft.add, hread], ?_, ?_⟩
        · exact ⟨hhost, hrule, hfile, .give items hgives, hchecksum, hquiet⟩
        · rintro _ ⟨⟩
          exact hgood

/-- Items are taken in up to the first block size that cannot be read. -/
theorem addAll_cases (items : List Item) :
    ((∀ word, .value .block word ∈ items → IsBlockSize word) ∧
        ∃ draft, addAll {} items = .ok draft ∧ Of items draft) ∨
      ∃ earlier word later, items = earlier ++ .value .block word :: later ∧
        (∀ word, .value .block word ∈ earlier → IsBlockSize word) ∧ ¬ IsBlockSize word ∧
        addAll {} items = .error (.invalidBlockSize word) := by
  -- From the right, as the last item that gives something is the one that counts.
  induction items using List.reverseRecOn with
  | nil => exact .inl ⟨by simp, {}, rfl, .start⟩
  | append_singleton items item ih =>
    rcases ih with ⟨hblocks, draft, hdraft, hof⟩ |
      ⟨earlier, word, later, rfl, hearlier, hbad, hfault⟩
    · have hstep : addAll {} (items ++ [item]) = draft.addAll [item] := by
        rw [addAll_append, hdraft]
      rcases hof.add item with ⟨next, hnext, hof', hitem⟩ | ⟨word, rfl, hbad, hfault⟩
      · refine .inl ⟨?_, next, by rw [hstep]; simp only [addAll, hnext], hof'⟩
        intro word hword
        rcases List.mem_append.1 hword with hmem | hmem
        · exact hblocks word hmem
        · exact hitem word (List.mem_singleton.1 hmem).symm
      · exact .inr ⟨items, word, [], rfl, hblocks, hbad, by rw [hstep]; simp only [addAll, hfault]⟩
    · refine .inr ⟨earlier, word, later ++ [item], by simp, hearlier, hbad, ?_⟩
      rw [addAll_append, hfault]

theorem addAll_of_blocks {items : List Item}
    (h : ∀ word, .value .block word ∈ items → IsBlockSize word) :
    ∃ draft, addAll {} items = .ok draft ∧ Of items draft := by
  rcases addAll_cases items with ⟨-, hdraft⟩ | ⟨earlier, word, later, rfl, -, hbad, -⟩
  · exact hdraft
  · exact absurd (h word (by simp)) hbad

theorem addAll_of_bad {earlier later : List Item} {word : String}
    (hearlier : ∀ word, .value .block word ∈ earlier → IsBlockSize word)
    (hbad : ¬ IsBlockSize word) :
    addAll {} (earlier ++ .value .block word :: later) = .error (.invalidBlockSize word) := by
  obtain ⟨draft, hdraft, -⟩ := addAll_of_blocks hearlier
  have hadd : draft.add (.value .block word) = .error (.invalidBlockSize word) := by
    rcases readBlockSize_cases word with ⟨-, hread⟩ | ⟨hgood, -⟩ | ⟨hgood, -⟩
    · simp only [Draft.add, hread]
    · exact absurd hgood hbad
    · exact absurd hgood hbad
  rw [addAll_append, hdraft]
  simp only [addAll, hadd]

end Draft

/-! ## Answers -/

/-- The mandatory flags, in the order in which they are missed. -/
def mandatory : List ValueFlag := [.host, .rule, .file]

/-- The first of some flags that no item gives. -/
inductive FirstMissing (items : List Item) : List ValueFlag → ValueFlag → Prop where
  | here {flag : ValueFlag} {rest : List ValueFlag} (h : ∀ word, .value flag word ∉ items) :
      FirstMissing items (flag :: rest) flag
  | later {first flag : ValueFlag} {rest : List ValueFlag} {word : String}
      (h : .value first word ∈ items) (hrest : FirstMissing items rest flag) :
      FirstMissing items (first :: rest) flag

/-- The information text of an ending; one that lacks a value has none. -/
def Ending.info? : Ending → Option String
  | .plain => some defaultInfo
  | .info first rest => some (joinWords (first :: rest))
  | .unfinished _ => none

/-- A request has from each flag what the items of a line settle. -/
structure Request.Of (defaultBlockSize : Nat) (line : Line) (request : Request) : Prop where
  host : Settles (Gives .host) line.items (some request.host)
  rule : Settles (Gives .rule) line.items (some request.rule)
  file : Settles (Gives .file) line.items (some request.file)
  blockSize : ∃ size?, Settles GivesSize line.items size? ∧
    request.blockSize = size?.getD defaultBlockSize
  checksum : request.checksum = true ↔ .switch .checksum ∈ line.items
  quiet : request.quiet = true ↔ .switch .quiet ∈ line.items
  info : line.ending.info? = some request.info

/-- The answer to a grouped line. -/
inductive Answers (defaultBlockSize : Nat) (line : Line) : Except HandoffError Request → Prop where
  | empty (h : line.words = []) : Answers defaultBlockSize line (.error .emptyCommand)
  | badBlock {earlier later : List Item} {word : String}
      (hitems : line.items = earlier ++ .value .block word :: later)
      (hearlier : ∀ word, .value .block word ∈ earlier → IsBlockSize word)
      (hbad : ¬ IsBlockSize word) :
      Answers defaultBlockSize line (.error (.invalidBlockSize word))
  | unfinished {flag : Flag} (hblocks : ∀ word, .value .block word ∈ line.items → IsBlockSize word)
      (hending : line.ending = .unfinished flag) :
      Answers defaultBlockSize line (.error (.missingValue flag.word))
  | missing {flag : ValueFlag} {info : String} (hwords : line.words ≠ [])
      (hblocks : ∀ word, .value .block word ∈ line.items → IsBlockSize word)
      (hinfo : line.ending.info? = some info)
      (hmissing : FirstMissing line.items mandatory flag) :
      Answers defaultBlockSize line (.error (.missingFlag flag.word))
  | complete {request : Request}
      (hblocks : ∀ word, .value .block word ∈ line.items → IsBlockSize word)
      (hrequest : request.Of defaultBlockSize line) :
      Answers defaultBlockSize line (.ok request)

namespace Request

theorem ofLine_eq_ofDraft {size : Nat} {line : Line} {draft : Draft} {info : String}
    (hdraft : Draft.addAll {} line.items = .ok draft) (hinfo : line.ending.info? = some info) :
    ofLine size line = ofDraft size draft info := by
  obtain ⟨items, ending⟩ := line
  cases ending with
  | plain =>
    obtain rfl := Option.some.inj hinfo
    simp only [ofLine, hdraft]
  | info first rest =>
    obtain rfl := Option.some.inj hinfo
    simp only [ofLine, hdraft]
  | unfinished flag => simp [Ending.info?] at hinfo

/-- The answer of the grammar is the answer that is given. -/
theorem ofLine_of_answers {size : Nat} {line : Line} {answer : Except HandoffError Request}
    (h : Answers size line answer) (hwords : line.words ≠ []) : ofLine size line = answer := by
  cases h with
  | empty hempty => exact absurd hempty hwords
  | badBlock hitems hearlier hbad =>
    simp only [ofLine, hitems, Draft.addAll_of_bad hearlier hbad]
  | unfinished hblocks hending =>
    obtain ⟨draft, hdraft, -⟩ := Draft.addAll_of_blocks hblocks
    simp only [ofLine, hdraft, hending]
  | missing _ hblocks hinfo hmissing =>
    obtain ⟨draft, hdraft, hof⟩ := Draft.addAll_of_blocks hblocks
    rw [ofLine_eq_ofDraft hdraft hinfo]
    cases hmissing with
    | here hnone =>
      have hhost : draft.host = none := hof.host.eq_none_iff.2 hnone
      simp only [ofDraft, hhost]
    | later hmem hmissing =>
      obtain ⟨host, hhost⟩ := hof.host.exists_of_mem hmem
      cases hmissing with
      | here hnone =>
        have hrule : draft.rule = none := hof.rule.eq_none_iff.2 hnone
        simp only [ofDraft, hhost, hrule]
      | later hmem hmissing =>
        obtain ⟨rule, hrule⟩ := hof.rule.exists_of_mem hmem
        cases hmissing with
        | here hnone =>
          have hfile : draft.file = none := hof.file.eq_none_iff.2 hnone
          simp only [ofDraft, hhost, hrule, hfile]
        | later _ hmissing => cases hmissing
  | @complete request hblocks hrequest =>
    obtain ⟨draft, hdraft, hof⟩ := Draft.addAll_of_blocks hblocks
    rw [ofLine_eq_ofDraft hdraft hrequest.info]
    have hhost := hof.host.unique Gives.unique hrequest.host
    have hrule := hof.rule.unique Gives.unique hrequest.rule
    have hfile := hof.file.unique Gives.unique hrequest.file
    obtain ⟨size?, hsettles, hsize⟩ := hrequest.blockSize
    obtain rfl := hof.blockSize.unique GivesSize.unique hsettles
    have hchecksum : draft.checksum = request.checksum :=
      Bool.eq_iff_iff.2 (hof.checksum.trans hrequest.checksum.symm)
    have hquiet : draft.quiet = request.quiet :=
      Bool.eq_iff_iff.2 (hof.quiet.trans hrequest.quiet.symm)
    simp only [ofDraft, hhost, hrule, hfile, hchecksum, hquiet, ← hsize]

/-- The answer that is given is one of the grammar. -/
theorem answers_ofLine (size : Nat) {line : Line} (hwords : line.words ≠ []) :
    Answers size line (ofLine size line) := by
  rcases Draft.addAll_cases line.items with ⟨hblocks, draft, hdraft, hof⟩ |
    ⟨earlier, word, later, hitems, hearlier, hbad, hfault⟩
  · cases hinfo : line.ending.info? with
    | none =>
      obtain ⟨flag, hending⟩ : ∃ flag, line.ending = .unfinished flag := by
        cases hending : line.ending with
        | unfinished flag => exact ⟨flag, rfl⟩
        | _ => simp [hending, Ending.info?] at hinfo
      have hanswer : ofLine size line = .error (.missingValue flag.word) := by
        simp only [ofLine, hdraft, hending]
      exact hanswer ▸ .unfinished hblocks hending
    | some info =>
      rw [ofLine_eq_ofDraft hdraft hinfo]
      obtain ⟨host?, rule?, file?, size?, checksum, quiet⟩ := draft
      obtain ⟨hhost, hrule, hfile, hsize, hchecksum, hquiet⟩ := hof
      -- A flag counts as missing only if those before it are there.
      cases host? with
      | none => exact .missing hwords hblocks hinfo (.here (hhost.eq_none_iff.1 rfl))
      | some host =>
        cases rule? with
        | none =>
          exact .missing hwords hblocks hinfo (.later hhost.mem (.here (hrule.eq_none_iff.1 rfl)))
        | some rule =>
          cases file? with
          | none =>
            exact .missing hwords hblocks hinfo
              (.later hhost.mem (.later hrule.mem (.here (hfile.eq_none_iff.1 rfl))))
          | some file =>
            exact .complete hblocks
              ⟨hhost, hrule, hfile, ⟨size?, hsize, rfl⟩, hchecksum, hquiet, hinfo⟩
  · have hanswer : ofLine size line = .error (.invalidBlockSize word) := by
      simp only [ofLine, hfault]
    exact hanswer ▸ .badBlock hitems hearlier hbad

theorem parse_eq_iff {text : String} {size : Nat} {line : Line} (hproper : line.Proper)
    (hwords : line.words = wordsOf text) (answer : Except HandoffError Request) :
    parse text size = answer ↔ Answers size line answer := by
  have hline : Line.ofWords (wordsOf text) = line := by
    rw [← hwords, Line.ofWords_words hproper]
  unfold parse
  cases htext : wordsOf text with
  | nil =>
    obtain rfl : line = ⟨[], .plain⟩ := by
      rw [← hline, htext]
      rfl
    constructor
    · rintro rfl
      exact .empty rfl
    · intro h
      cases h with
      | empty _ => rfl
      | badBlock hitems _ _ => simp at hitems
      | unfinished _ hending => simp at hending
      | missing hne _ _ _ => exact absurd rfl hne
      | complete _ hrequest => exact absurd hrequest.host.mem List.not_mem_nil
  | cons word rest =>
    have hne : line.words ≠ [] := by simp [hwords, htext]
    have hofLine : ofWords size (word :: rest) = ofLine size line := by
      rw [← hline, htext]
      rfl
    rw [hofLine]
    constructor
    · rintro rfl
      exact answers_ofLine size hne
    · intro h
      exact ofLine_of_answers h hne

theorem parse_eq_ofLine {text : String} {size : Nat} {line : Line} (hproper : line.Proper)
    (hwords : line.words = wordsOf text) (hne : line.words ≠ []) :
    parse text size = ofLine size line :=
  (parse_eq_iff hproper hwords _).2 (answers_ofLine size hne)

theorem isParseError_of_parse {text : String} {size : Nat} {e : HandoffError}
    (h : parse text size = .error e) : e.isParseError = true := by
  have hline := Line.proper_and_words_iff.2 (rfl : Line.ofWords (wordsOf text) = _)
  have hanswer := (parse_eq_iff hline.1 hline.2 (.error e)).1 h
  cases hanswer <;> rfl

/-- The words of a line can be grouped by the rules in one way, and the grouped line tells the
answer: the line is empty; or the scan meets a fault, of which the first one counts; or a mandatory
flag is missing; or all is there, and the last item that gives something counts. -/
theorem parse_iff_answers (text : String) (defaultBlockSize : Nat) :
    (∃! line : Line, line.Proper ∧ line.words = wordsOf text) ∧
      ∀ line : Line, line.Proper → line.words = wordsOf text → ∀ answer,
        parse text defaultBlockSize = answer ↔ Answers defaultBlockSize line answer := by
  constructor
  · refine ⟨Line.ofWords (wordsOf text), Line.proper_and_words_iff.2 rfl, ?_⟩
    intro line hline
    exact Line.proper_and_words_iff.1 hline
  · intro line hproper hwords answer
    exact parse_eq_iff hproper hwords answer

-- Words that are not flags are passed over, a size below the least one is, and the last size wins.
example :
    parse "-to -file -rule -nolog -file -md5 x -block +100 -block 99 -info a  b" 7 =
      .ok ⟨"-file", "-nolog", "-md5", 100, false, false, "a b"⟩ := by decide

end Request

end TransferGateway.Handoff
