import TransferGateway.Deployment
import TransferGateway.Handoff.Database
import TransferGateway.Proofs.Handoff.Preparation
import TransferGateway.Proofs.Manifest.Validity

/-!
# Block sizes of queued transfers

A block size that a line asks for is within the bounds of the queue.  A line that asks for none goes
by the one of the host, and of that a manifest has only the lower bound checked.
-/

namespace TransferGateway

namespace DatabaseStore

/-- The column takes the sizes that a line can ask for, as they are, and no larger ones. -/
theorem blockSizeColumn_eq_ok_iff {size taken : Nat} :
    blockSizeColumn size = .ok taken ↔ size ≤ Handoff.maxBlockSize ∧ taken = size := by
  have hbound : size < Nat.pow 2 31 ↔ size ≤ Handoff.maxBlockSize := Nat.lt_succ_iff
  unfold blockSizeColumn
  split
  · rename_i hsize
    simp [hbound.1 hsize, eq_comm]
  · rename_i hsize
    simp [mt hbound.2 hsize]

/-- What keeps a row out of a database before that is asked is a block size too large. -/
theorem createError_eq_serialization_iff {cause : String} {descriptor : Descriptor} :
    (∃ text, createError cause descriptor = .serialization text) ↔
      Handoff.maxBlockSize < descriptor.blockSize := by
  unfold createError
  cases hcolumn : blockSizeColumn descriptor.blockSize with
  | ok taken =>
    have hle := (blockSizeColumn_eq_ok_iff.1 hcolumn).1
    simp [hle]
  | error e =>
    have hlt : Handoff.maxBlockSize < descriptor.blockSize := by
      by_contra hle
      rw [blockSizeColumn_eq_ok_iff.2 ⟨Nat.le_of_not_lt hle, rfl⟩] at hcolumn
      contradiction
    unfold blockSizeColumn at hcolumn
    split at hcolumn
    · contradiction
    · obtain rfl := Except.error.inj hcolumn
      simp [hlt]

end DatabaseStore

namespace Handoff

/-- A block size that can be queued: one within the bounds, which its column takes as it is. -/
structure Fits (size : Nat) : Prop where
  least : minBlockSize ≤ size
  greatest : size ≤ maxBlockSize
  column : DatabaseStore.blockSizeColumn size = .ok size

theorem fits_iff {size : Nat} : Fits size ↔ minBlockSize ≤ size ∧ size ≤ maxBlockSize := by
  constructor
  · intro h
    exact ⟨h.least, h.greatest⟩
  · rintro ⟨hleast, hgreatest⟩
    exact ⟨hleast, hgreatest, DatabaseStore.blockSizeColumn_eq_ok_iff.2 ⟨hgreatest, rfl⟩⟩

/-- A line asks for a block size that is large enough to count. -/
def AsksSize (text : String) : Prop :=
  ∃ item ∈ (Line.ofWords (wordsOf text)).items, ∃ size, GivesSize item size

namespace Request

variable {text : String} {default : Nat} {request : Request}

/-- A request has the block size its line asks for, which fits, or else the default one. -/
theorem blockSize_cases (h : parse text default = .ok request) :
    AsksSize text ∧ Fits request.blockSize ∨
      ¬ AsksSize text ∧ request.blockSize = default := by
  obtain ⟨hproper, hwords⟩ := Line.proper_and_words_iff.2 (rfl : Line.ofWords (wordsOf text) = _)
  cases (parse_eq_iff hproper hwords _).1 h with
  | complete hblocks hrequest =>
    obtain ⟨size?, hsettles, hsize⟩ := hrequest.blockSize
    cases size? with
    | none =>
      refine .inr ⟨?_, hsize⟩
      rintro ⟨item, hitem, size, hgives⟩
      exact hsettles item hitem size hgives
    | some size =>
      obtain ⟨earlier, item, later, hitems, hgives, -⟩ := hsettles
      have hitem : item ∈ (Line.ofWords (wordsOf text)).items := by simp [hitems]
      refine .inl ⟨⟨item, hitem, size, hgives⟩, ?_⟩
      -- That the size counts bounds it from below, that the line could be read from above.
      obtain ⟨word, rfl, hword, hleast⟩ := hgives
      obtain ⟨n, hn, hgreatest⟩ := hblocks word hitem
      obtain rfl := hword.unique hn
      rw [hsize]
      exact fits_iff.2 ⟨hleast, Int.ofNat_le.1 hgreatest⟩

theorem fits_blockSize_iff_le (hdefault : minBlockSize ≤ default)
    (h : parse text default = .ok request) :
    Fits request.blockSize ↔ request.blockSize ≤ maxBlockSize := by
  rcases blockSize_cases h with ⟨-, hfits⟩ | ⟨-, hsize⟩
  · exact iff_of_true hfits hfits.greatest
  · rw [hsize, fits_iff]
    simp [hdefault]

/-- With a default block size large enough, only one too large does not fit, and that a line can
avert. -/
theorem fits_blockSize_iff (hdefault : minBlockSize ≤ default)
    (h : parse text default = .ok request) :
    Fits request.blockSize ↔ default ≤ maxBlockSize ∨ AsksSize text := by
  rcases blockSize_cases h with ⟨hasks, hfits⟩ | ⟨hasks, hsize⟩
  · exact iff_of_true hfits (.inr hasks)
  · rw [hsize, fits_iff]
    simp [hdefault, hasks]

/-- A line of the mandatory flags alone. -/
def plainLine : String := "-to partner -rule push -file a.dat"

theorem parse_plainLine (default : Nat) :
    parse plainLine default =
      .ok ⟨"partner", "push", "a.dat", default, false, false, defaultInfo⟩ := rfl

theorem not_asksSize_plainLine : ¬ AsksSize plainLine := by
  rintro ⟨item, hitem, size, word, rfl, -⟩
  have hitems : (Line.ofWords (wordsOf plainLine)).items =
      [.value .host "partner", .value .rule "push", .value .file "a.dat"] := rfl
  simp [hitems] at hitem

end Request

/-- Whatever is queued for a line has a block size that fits. -/
def QueuesFitting (settings : Settings) (line : String) : Prop :=
  ∀ store descriptor, (prepare settings line store).result = .ok descriptor →
    Fits descriptor.blockSize

/-- No database keeps out what a line asks for before it is asked. -/
def Storable (settings : Settings) (line : String) : Prop :=
  ∀ request rule clock cause text, Request.parse line settings.defaultBlockSize = .ok request →
    DatabaseStore.createError cause (settings.descriptor request rule clock) ≠
      .serialization text

section

variable {settings : Settings} {line : String} {request : Request}

/-- What is queued has the block size that its line is read to have. -/
theorem Preparation.blockSize {store : Store} {prepared : Prepared} {descriptor : Descriptor}
    (h : Preparation settings line store prepared) (hresult : prepared.result = .ok descriptor) :
    ∃ request, Request.parse line settings.defaultBlockSize = .ok request ∧
      descriptor.blockSize = request.blockSize := by
  cases h with
  | queued request rule hline =>
    obtain rfl := Except.ok.inj hresult
    exact ⟨request, hline, rfl⟩
  | _ => cases hresult

/-- A line that can be read is queued where its rule is known. -/
theorem exists_queued (h : Request.parse line settings.defaultBlockSize = .ok request) :
    ∃ store descriptor, (prepare settings line store).result = .ok descriptor := by
  let store : Store := { rules := ⟨[⟨request.rule, ⟨false, false, false⟩⟩]⟩ }
  have hrule : store.lookup request.rule = .ok (some ⟨request.rule, ⟨false, false, false⟩⟩) := by
    simp [store, Store.lookup, RuleBook.find?]
  refine ⟨store, ?_⟩
  have hprepared := preparation settings line store
  generalize prepare settings line store = prepared at hprepared
  cases hprepared with
  | unread e hline =>
    rw [h] at hline
    contradiction
  | unsearched request' cause hline hlookup =>
    rw [h] at hline
    cases hline
    rw [hrule] at hlookup
    contradiction
  | unruled request' hline hlookup =>
    rw [h] at hline
    cases hline
    rw [hrule] at hlookup
    cases hlookup
  | uncreated _ _ _ hcreate => contradiction
  | removed _ _ _ _ hmark => contradiction
  | stranded _ _ _ _ _ hmark => contradiction
  | queued => exact ⟨_, rfl⟩

theorem queuesFitting_iff (hdefault : minBlockSize ≤ settings.defaultBlockSize)
    (h : Request.parse line settings.defaultBlockSize = .ok request) :
    QueuesFitting settings line ↔
      settings.defaultBlockSize ≤ maxBlockSize ∨ AsksSize line := by
  have hsize : ∀ store descriptor, (prepare settings line store).result = .ok descriptor →
      descriptor.blockSize = request.blockSize := by
    intro store descriptor hresult
    obtain ⟨request', hline, hsize⟩ := (preparation settings line store).blockSize hresult
    rw [h] at hline
    cases hline
    exact hsize
  rw [← Request.fits_blockSize_iff hdefault h]
  constructor
  · intro hqueues
    obtain ⟨store, descriptor, hresult⟩ := exists_queued h
    rw [← hsize store descriptor hresult]
    exact hqueues store descriptor hresult
  · intro hfits store descriptor hresult
    rwa [hsize store descriptor hresult]

theorem storable_iff (hdefault : minBlockSize ≤ settings.defaultBlockSize)
    (h : Request.parse line settings.defaultBlockSize = .ok request) :
    Storable settings line ↔ settings.defaultBlockSize ≤ maxBlockSize ∨ AsksSize line := by
  rw [← Request.fits_blockSize_iff hdefault h, Request.fits_blockSize_iff_le hdefault h]
  constructor
  · intro hstorable
    by_contra hsize
    let rule : TransferRule := ⟨request.rule, ⟨false, false, false⟩⟩
    have hlarge : maxBlockSize < (settings.descriptor request rule 0).blockSize :=
      Nat.lt_of_not_le hsize
    obtain ⟨text, htext⟩ := DatabaseStore.createError_eq_serialization_iff.2 hlarge
    exact hstorable request rule 0 "" text h htext
  · rintro hsize request' rule clock cause text hline htext
    rw [h] at hline
    cases hline
    have hlt := DatabaseStore.createError_eq_serialization_iff.1 ⟨text, htext⟩
    exact Nat.not_le_of_lt hlt hsize

theorem forall_queuesFitting_iff (hdefault : minBlockSize ≤ settings.defaultBlockSize) :
    (∀ line, QueuesFitting settings line) ↔ settings.defaultBlockSize ≤ maxBlockSize := by
  constructor
  · intro hqueues
    have hplain := (queuesFitting_iff hdefault (Request.parse_plainLine _)).1 (hqueues _)
    exact hplain.resolve_right Request.not_asksSize_plainLine
  · intro hle line store descriptor hresult
    obtain ⟨request, hline, -⟩ := (preparation settings line store).blockSize hresult
    exact (queuesFitting_iff hdefault hline).2 (.inl hle) store descriptor hresult

theorem forall_storable_iff (hdefault : minBlockSize ≤ settings.defaultBlockSize) :
    (∀ line, Storable settings line) ↔ settings.defaultBlockSize ≤ maxBlockSize := by
  constructor
  · intro hstorable
    have hplain := (storable_iff hdefault (Request.parse_plainLine _)).1 (hstorable _)
    exact hplain.resolve_right Request.not_asksSize_plainLine
  · intro hle line request rule clock cause text hline
    exact (storable_iff hdefault hline).2 (.inl hle) request rule clock cause text hline

end

end Handoff

namespace Deployment

open Handoff (Fits AsksSize QueuesFitting Storable maxBlockSize)

/-- Under a manifest that passes its check, all that is queued has a block size that fits, and
nothing to be queued is kept out of a database for it, exactly if the size of the host is not too
large.  If that is too large, then a line is safe exactly if it asks for another one. -/
theorem queued_fits_iff {m : Manifest} (hvalid : m.validate = .ok ()) (outside : Outside)
    (policies : PolicySet) (store : Store) :
    let settings := (gatewayOf m outside policies store).handoff
    ((∀ line, QueuesFitting settings line) ↔ m.spec.host.defaultBlockSize ≤ maxBlockSize) ∧
    ((∀ line, Storable settings line) ↔ m.spec.host.defaultBlockSize ≤ maxBlockSize) ∧
    ∀ line request, Handoff.Request.parse line settings.defaultBlockSize = .ok request →
      (QueuesFitting settings line ↔
        m.spec.host.defaultBlockSize ≤ maxBlockSize ∨ AsksSize line) ∧
      (Storable settings line ↔
        m.spec.host.defaultBlockSize ≤ maxBlockSize ∨ AsksSize line) := by
  intro settings
  have hdefault : Handoff.minBlockSize ≤ settings.defaultBlockSize :=
    (Manifest.validate_eq_ok_iff.1 hvalid).blockSize
  refine ⟨Handoff.forall_queuesFitting_iff hdefault, Handoff.forall_storable_iff hdefault, ?_⟩
  intro line request h
  exact ⟨Handoff.queuesFitting_iff hdefault h, Handoff.storable_iff hdefault h⟩

/-- The block size of a machine without a manifest is safe. -/
theorem standard_queues_fitting :
    (Manifest.standard "edge").validate = .ok () ∧
      QueuesFitting ⟨"edge", 65536⟩ "-to partner -rule push -file a.dat -block 50" ∧
      Storable ⟨"edge", 65536⟩ "-to partner -rule push -file a.dat -block 50" := by
  obtain ⟨hqueues, hstorable, -⟩ :=
    queued_fits_iff (m := Manifest.standard "edge") rfl {} ⟨.noAction, .noAction⟩ {}
  exact ⟨rfl, hqueues.2 (by decide) _, hstorable.2 (by decide) _⟩

/-- A manifest whose host has a block size too large for the queue. -/
def oversized : Manifest where
  apiVersion := Manifest.expectedVersion
  kind := Manifest.expectedKind
  metadata := { name := "edge" }
  spec :=
    { host := { id := "edge", defaultBlockSize := 3000000000 }
      rules := [⟨"push", ⟨false, false, false⟩⟩] }

/-- Such a manifest passes the check, but rows of that size are queued, and a database keeps them
out. -/
theorem oversized_unfit :
    oversized.validate = .ok () ∧
      ∃ d descriptor, start {} oversized = .ok d ∧
        (d.prepare Handoff.Request.plainLine).1 = .ok descriptor ∧
        descriptor.blockSize = 3000000000 ∧ ¬ Fits descriptor.blockSize ∧
        DatabaseStore.blockSizeColumn descriptor.blockSize =
          .error (.serialization "Block size out of range: 3000000000") := by
  refine ⟨rfl, _, _, rfl, rfl, rfl, ?_, rfl⟩
  intro h
  exact absurd h.greatest (by decide)

end Deployment

end TransferGateway
