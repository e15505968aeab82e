import TransferGateway.Proofs.Handoff.Grammar

/-!
# Items in another order

The order of the items of a hand-off line counts only between those of one value flag, and words
that are no flags count not at all.  A line whose items are rearranged gets the same answer, be it
a request or a fault.
-/

namespace TransferGateway.Handoff

/-- Whether an item is a flag, with its value if it takes one. -/
def Item.isKnown : Item → Bool
  | .unknown _ => false
  | _ => true

/-- Whether an item gives a value to the flag. -/
def Item.isOf (flag : ValueFlag) : Item → Bool
  | .value other _ => decide (other = flag)
  | _ => false

theorem Item.isOf_value (flag : ValueFlag) (word : String) :
    (Item.value flag word).isOf flag = true :=
  decide_eq_true rfl

/-- Items in another order and between other unknown words; those of one value flag keep their
order. -/
structure Rearranged (items₁ items₂ : List Item) : Prop where
  known : (items₁.filter Item.isKnown).Perm (items₂.filter Item.isKnown)
  order : ∀ flag, items₁.filter (Item.isOf flag) = items₂.filter (Item.isOf flag)

/-- An item that is not filtered out stands between the same others in all lists that are filtered
alike. -/
theorem exists_split_of_filter_eq {p : Item → Bool} {earlier later items : List Item} {item : Item}
    (h : (earlier ++ item :: later).filter p = items.filter p) (hitem : p item = true) :
    ∃ earlier' later', items = earlier' ++ item :: later' ∧
      earlier.filter p = earlier'.filter p ∧ later.filter p = later'.filter p := by
  rw [List.filter_append, List.filter_cons_of_pos hitem] at h
  obtain ⟨first, rest, rfl, hfirst, hrest⟩ := List.filter_eq_append_iff.1 h.symm
  obtain ⟨between, later', rfl, hbetween, -, hlater⟩ := List.filter_eq_cons_iff.1 hrest
  refine ⟨first ++ between, later', by simp, ?_, hlater.symm⟩
  rw [List.filter_append, hfirst, List.filter_eq_nil_iff.2 hbetween, List.append_nil]

/-- What some kind of item settles depends on the items of that kind and their order only. -/
theorem Settles.of_filter_eq {α : Type} {gives : Item → α → Prop} {p : Item → Bool}
    {items₁ items₂ : List Item} {value? : Option α} (hgives : ∀ item value, gives item value →
      p item = true) (hsame : items₁.filter p = items₂.filter p)
    (h : Settles gives items₁ value?) : Settles gives items₂ value? := by
  have hback : ∀ {others items : List Item}, items.filter p = others.filter p →
      ∀ item ∈ others, ∀ value, gives item value → item ∈ items := by
    intro others items heq item hitem value hvalue
    have hmem : item ∈ others.filter p := List.mem_filter.2 ⟨hitem, hgives item value hvalue⟩
    rw [← heq] at hmem
    exact (List.mem_filter.1 hmem).1
  cases value? with
  | none =>
    intro item hitem value hvalue
    exact h item (hback hsame item hitem value hvalue) value hvalue
  | some value =>
    obtain ⟨earlier, item, later, rfl, hitem, hlater⟩ := h
    obtain ⟨earlier', later', rfl, -, hrest⟩ :=
      exists_split_of_filter_eq hsame (hgives item value hitem)
    refine ⟨earlier', item, later', rfl, hitem, ?_⟩
    intro other hother v hv
    exact hlater other (hback hrest other hother v hv) v hv

theorem isOf_of_gives (flag : ValueFlag) (item : Item) (value : String)
    (h : Gives flag item value) : item.isOf flag = true := by
  obtain rfl : item = .value flag value := h
  exact Item.isOf_value flag value

theorem isOf_of_givesSize (item : Item) (size : Nat) (h : GivesSize item size) :
    item.isOf .block = true := by
  obtain ⟨word, rfl, -⟩ := h
  exact Item.isOf_value .block word

namespace Rearranged

variable {items₁ items₂ : List Item}

theorem symm (h : Rearranged items₁ items₂) : Rearranged items₂ items₁ where
  known := h.known.symm
  order := fun flag => (h.order flag).symm

/-- A permutation that keeps the items of each value flag in order. -/
theorem of_perm (h : items₁.Perm items₂)
    (horder : ∀ flag, items₁.filter (Item.isOf flag) = items₂.filter (Item.isOf flag)) :
    Rearranged items₁ items₂ where
  known := h.filter _
  order := horder

/-- An unknown word that is put in anywhere. -/
theorem insert (earlier later : List Item) (word : String) :
    Rearranged (earlier ++ later) (earlier ++ .unknown word :: later) where
  known := by simp [Item.isKnown]
  order := by simp [Item.isOf]

theorem trans {items₃ : List Item} (h : Rearranged items₁ items₂) (h' : Rearranged items₂ items₃) :
    Rearranged items₁ items₃ where
  known := h.known.trans h'.known
  order := fun flag => (h.order flag).trans (h'.order flag)

theorem mem_iff (h : Rearranged items₁ items₂) {item : Item} (hitem : item.isKnown = true) :
    item ∈ items₁ ↔ item ∈ items₂ := by
  have hmem := h.known.mem_iff (a := item)
  simpa [List.mem_filter, hitem] using hmem

theorem settles (h : Rearranged items₁ items₂) {flag : ValueFlag} {value? : Option String}
    (hsettles : Settles (Gives flag) items₁ value?) : Settles (Gives flag) items₂ value? :=
  hsettles.of_filter_eq (isOf_of_gives flag) (h.order flag)

theorem settlesSize (h : Rearranged items₁ items₂) {size? : Option Nat}
    (hsettles : Settles GivesSize items₁ size?) : Settles GivesSize items₂ size? :=
  hsettles.of_filter_eq isOf_of_givesSize (h.order .block)

theorem blocks (h : Rearranged items₁ items₂)
    (hblocks : ∀ word, .value .block word ∈ items₁ → IsBlockSize word) :
    ∀ word, .value .block word ∈ items₂ → IsBlockSize word :=
  fun word hword => hblocks word ((h.mem_iff rfl).2 hword)

theorem firstMissing (h : Rearranged items₁ items₂) {flags : List ValueFlag} {flag : ValueFlag}
    (hmissing : FirstMissing items₁ flags flag) : FirstMissing items₂ flags flag := by
  induction hmissing with
  | here hnone => exact .here fun word hword => hnone word ((h.mem_iff rfl).2 hword)
  | later hmem _ ih => exact .later ((h.mem_iff rfl).1 hmem) ih

/-- The first block size that cannot be read stays the first one. -/
theorem badBlock (h : Rearranged items₁ items₂) {earlier later : List Item} {word : String}
    (hitems : items₁ = earlier ++ .value .block word :: later)
    (hearlier : ∀ word, .value .block word ∈ earlier → IsBlockSize word) :
    ∃ earlier' later', items₂ = earlier' ++ .value .block word :: later' ∧
      ∀ word, .value .block word ∈ earlier' → IsBlockSize word := by
  subst hitems
  obtain ⟨earlier', later', hitems', hsame, -⟩ :=
    exists_split_of_filter_eq (h.order .block) (Item.isOf_value .block word)
  refine ⟨earlier', later', hitems', ?_⟩
  intro other hother
  have hmem : .value .block other ∈ earlier'.filter (Item.isOf .block) :=
    List.mem_filter.2 ⟨hother, Item.isOf_value .block other⟩
  rw [← hsame] at hmem
  exact hearlier other (List.mem_filter.1 hmem).1

theorem requestOf (h : Rearranged items₁ items₂) {ending : Ending} {size : Nat} {request : Request}
    (hrequest : request.Of size ⟨items₁, ending⟩) : request.Of size ⟨items₂, ending⟩ where
  host := h.settles hrequest.host
  rule := h.settles hrequest.rule
  file := h.settles hrequest.file
  blockSize := by
    obtain ⟨size?, hsettles, hsize⟩ := hrequest.blockSize
    exact ⟨size?, h.settlesSize hsettles, hsize⟩
  checksum := hrequest.checksum.trans (h.mem_iff rfl)
  quiet := hrequest.quiet.trans (h.mem_iff rfl)
  info := hrequest.info

/-- Lines whose items are rearranged have the same answer. -/
theorem answers (h : Rearranged items₁ items₂) {ending : Ending} {size : Nat}
    {answer : Except HandoffError Request} (hwords : (Line.mk items₁ ending).words ≠ [])
    (hwords' : (Line.mk items₂ ending).words ≠ [])
    (hanswer : Answers size ⟨items₁, ending⟩ answer) :
    Answers size ⟨items₂, ending⟩ answer := by
  cases hanswer with
  | empty hempty => exact absurd hempty hwords
  | badBlock hitems hearlier hbad =>
    obtain ⟨earlier', later', hitems', hearlier'⟩ := h.badBlock hitems hearlier
    exact .badBlock hitems' hearlier' hbad
  | unfinished hblocks hending => exact .unfinished (h.blocks hblocks) hending
  | missing _ hblocks hinfo hmissing =>
    exact .missing hwords' (h.blocks hblocks) hinfo (h.firstMissing hmissing)
  | complete hblocks hrequest => exact .complete (h.blocks hblocks) (h.requestOf hrequest)

end Rearranged
end TransferGateway.Handoff
