import Mathlib.Data.List.Forall2
import TransferGateway.Handoff.Request

/-!
# Lines that differ in the file only

The words of a hand-off line are grouped from left to right, and how they end says what the next
word will be.  Two lines are alike when they differ in the values of `-file` and in the information
text only; requests read from lines that are alike differ in the file and the information text only.
-/

namespace TransferGateway.Handoff

namespace Line

/-- A grouped line with more words after it. -/
def follow (line : Line) (words : List String) : Line :=
  match line.ending, words with
  | .plain, words => ⟨line.items ++ (ofWords words).items, (ofWords words).ending⟩
  | .info first rest, words => ⟨line.items, .info first (rest ++ words)⟩
  | .unfinished flag, [] => ⟨line.items, .unfinished flag⟩
  | .unfinished (.value flag), word :: rest =>
    ⟨line.items ++ .value flag word :: (ofWords rest).items, (ofWords rest).ending⟩
  | .unfinished .info, first :: rest => ⟨line.items, .info first rest⟩
  | .unfinished (.switch flag), words =>
    ⟨line.items ++ .switch flag :: (ofWords words).items, (ofWords words).ending⟩

theorem follow_cons (item : Item) (line : Line) (words : List String) :
    (cons item line).follow words = cons item (line.follow words) := by
  obtain ⟨items, ending⟩ := line
  cases ending with
  | plain => rfl
  | info first rest => rfl
  | unfinished flag =>
    cases words with
    | nil => rfl
    | cons word rest => cases flag <;> rfl

/-- Grouping words and grouping the words after them is grouping all of them. -/
theorem ofWords_append (earlier later : List String) :
    ofWords (earlier ++ later) = (ofWords earlier).follow later := by
  fun_induction ofWords earlier with
  | case1 => simp [follow]
  | case2 word rest h ih =>
    rw [follow_cons, ← ih, List.cons_append, ofWords.eq_def]
    simp only [h]
  | case3 word rest flag h ih =>
    rw [follow_cons, ← ih, List.cons_append, ofWords.eq_def]
    simp only [h]
  | case4 word flag h =>
    cases later with
    | nil => simp [ofWords, h, follow]
    | cons value rest => simp [ofWords, h, follow, cons]
  | case5 word flag h value more ih =>
    rw [follow_cons, ← ih, List.cons_append, List.cons_append, ofWords, h]
  | case6 word h =>
    cases later with
    | nil => simp [ofWords, h, follow]
    | cons first rest => simp [ofWords, h, follow]
  | case7 word h first more => simp [ofWords, h, follow]

end Line

/-! ## Lines that are alike -/

/-- Items that are the same, or values of `-file` both. -/
inductive Item.Alike : Item → Item → Prop where
  | same (item : Item) : Item.Alike item item
  | file (word₁ word₂ : String) : Item.Alike (.value .file word₁) (.value .file word₂)

/-- Whether an ending begins with `-info`. -/
def Ending.isInfo : Ending → Bool
  | .info .. => true
  | .unfinished .info => true
  | _ => false

/-- Lines that differ in the values of `-file` and in the information text only. -/
structure Line.Alike (line₁ line₂ : Line) : Prop where
  items : List.Forall₂ Item.Alike line₁.items line₂.items
  ending : line₁.ending = line₂.ending ∨
    (line₁.ending.isInfo = true ∧ line₂.ending.isInfo = true)

theorem alike_same (items : List Item) : List.Forall₂ Item.Alike items items :=
  List.forall₂_same.2 fun item _ => .same item

namespace Line

theorem follow_of_isInfo {line : Line} (h : line.ending.isInfo = true) (words : List String) :
    (line.follow words).items = line.items ∧ (line.follow words).ending.isInfo = true := by
  obtain ⟨items, ending⟩ := line
  cases ending with
  | plain => simp [Ending.isInfo] at h
  | info first rest => exact ⟨rfl, rfl⟩
  | unfinished flag =>
    cases flag with
    | info => cases words <;> exact ⟨rfl, rfl⟩
    | _ => simp [Ending.isInfo] at h

/-- Lines in their information texts stay alike whatever follows. -/
theorem Alike.follow_info {line₁ line₂ : Line} (h : line₁.Alike line₂)
    (h₁ : line₁.ending.isInfo = true) (h₂ : line₂.ending.isInfo = true)
    (words₁ words₂ : List String) : (line₁.follow words₁).Alike (line₂.follow words₂) := by
  obtain ⟨hitems₁, hinfo₁⟩ := follow_of_isInfo h₁ words₁
  obtain ⟨hitems₂, hinfo₂⟩ := follow_of_isInfo h₂ words₂
  refine ⟨?_, .inr ⟨hinfo₁, hinfo₂⟩⟩
  rw [hitems₁, hitems₂]
  exact h.items

/-- Lines stay alike if the same words follow. -/
theorem Alike.follow_same {line₁ line₂ : Line} (h : line₁.Alike line₂) (words : List String) :
    (line₁.follow words).Alike (line₂.follow words) := by
  rcases h.ending with hsame | ⟨h₁, h₂⟩
  · obtain ⟨items₁, ending⟩ := line₁
    obtain ⟨items₂, ending₂⟩ := line₂
    obtain rfl : ending = ending₂ := hsame
    cases ending with
    | plain => exact ⟨List.rel_append h.items (alike_same _), .inl rfl⟩
    | info first rest => exact ⟨h.items, .inl rfl⟩
    | unfinished flag =>
      cases words with
      | nil => exact ⟨h.items, .inl rfl⟩
      | cons word rest =>
        cases flag with
        | info => exact ⟨h.items, .inl rfl⟩
        | _ => exact ⟨List.rel_append h.items (alike_same _), .inl rfl⟩
  · exact h.follow_info h₁ h₂ words words

theorem follow_file {line : Line} (h : line.ending = .unfinished (.value .file)) (word : String) :
    line.follow [word] = ⟨line.items ++ [.value .file word], .plain⟩ := by
  obtain ⟨items, ending⟩ := line
  obtain rfl : ending = .unfinished (.value .file) := h
  rfl

/-- Lines that wait for the value of `-file` stay alike whatever it is. -/
theorem Alike.follow_file {line₁ line₂ : Line} (h : line₁.Alike line₂)
    (h₁ : line₁.ending = .unfinished (.value .file))
    (h₂ : line₂.ending = .unfinished (.value .file)) (word₁ word₂ : String) :
    (line₁.follow [word₁]).Alike (line₂.follow [word₂]) := by
  rw [Line.follow_file h₁, Line.follow_file h₂]
  refine ⟨List.rel_append h.items (.cons (.file word₁ word₂) .nil), .inl rfl⟩

end Line

/-! ## Requests of lines that are alike -/

namespace Draft

/-- Items that are alike make drafts that differ in the file only. -/
theorem add_of_alike {draft next : Draft} {item₁ item₂ : Item} (hitem : item₁.Alike item₂)
    (h : draft.add item₁ = .ok next) (file : Option String) :
    ∃ file', { draft with file }.add item₂ = .ok { next with file := file' } := by
  cases hitem with
  | file word₁ word₂ =>
    cases h
    exact ⟨some word₂, rfl⟩
  | same =>
    cases item₁ with
    | unknown word =>
      cases h
      exact ⟨file, rfl⟩
    | switch flag =>
      cases flag <;> cases h <;> exact ⟨file, rfl⟩
    | value flag word =>
      cases flag with
      | host =>
        cases h
        exact ⟨file, rfl⟩
      | rule =>
        cases h
        exact ⟨file, rfl⟩
      | file =>
        cases h
        exact ⟨some word, rfl⟩
      | block =>
        refine ⟨file, ?_⟩
        simp only [add] at h ⊢
        cases hsize : readBlockSize word with
        | error e => simp [hsize] at h
        | ok size =>
          cases size with
          | none =>
            simp only [hsize] at h ⊢
            cases h
            rfl
          | some n =>
            simp only [hsize] at h ⊢
            cases h
            rfl

theorem addAll_of_alike {draft last : Draft} {items₁ items₂ : List Item}
    (hitems : List.Forall₂ Item.Alike items₁ items₂) (h : draft.addAll items₁ = .ok last)
    (file : Option String) :
    ∃ file', { draft with file }.addAll items₂ = .ok { last with file := file' } := by
  induction hitems generalizing draft file with
  | nil =>
    cases h
    exact ⟨file, rfl⟩
  | cons hitem _ ih =>
    rename_i item₁ item₂ rest₁ rest₂ _
    simp only [addAll] at h ⊢
    cases hnext : draft.add item₁ with
    | error e => simp [hnext] at h
    | ok next =>
      simp only [hnext] at h
      obtain ⟨file', hfile'⟩ := add_of_alike hitem hnext file
      simp only [hfile']
      exact ih h file'

/-- An item other than a value of `-file` leaves the file alone. -/
theorem file_add {draft next : Draft} {item : Item}
    (hitem : ∀ word, item ≠ .value .file word) (h : draft.add item = .ok next) :
    next.file = draft.file := by
  cases item with
  | unknown word => cases h; rfl
  | switch flag => cases flag <;> cases h <;> rfl
  | value flag word =>
    cases flag with
    | file => exact absurd rfl (hitem word)
    | host => cases h; rfl
    | rule => cases h; rfl
    | block =>
      simp only [add] at h
      cases hsize : readBlockSize word with
      | error e => simp [hsize] at h
      | ok size => cases size <;> simp only [hsize] at h <;> cases h <;> rfl

theorem file_addAll {draft last : Draft} {items : List Item}
    (hitems : ∀ item ∈ items, ∀ word, item ≠ .value .file word)
    (h : draft.addAll items = .ok last) : last.file = draft.file := by
  induction items generalizing draft with
  | nil => cases h; rfl
  | cons item rest ih =>
    simp only [addAll] at h
    cases hnext : draft.add item with
    | error e => simp [hnext] at h
    | ok next =>
      simp only [hnext] at h
      rw [ih (fun other hother => hitems other (List.mem_cons_of_mem _ hother)) h]
      exact file_add (hitems item List.mem_cons_self) hnext

theorem addAll_append (draft : Draft) (earlier later : List Item) :
    draft.addAll (earlier ++ later) =
      match draft.addAll earlier with
      | .error e => .error e
      | .ok next => next.addAll later := by
  induction earlier generalizing draft with
  | nil => rfl
  | cons item rest ih =>
    simp only [List.cons_append, addAll]
    cases draft.add item with
    | error e => rfl
    | ok next => exact ih next

/-- The last value of `-file` is the file. -/
theorem file_of_last {draft last : Draft} {earlier later : List Item} {word : String}
    (hlater : ∀ item ∈ later, ∀ word, item ≠ .value .file word)
    (h : draft.addAll (earlier ++ .value .file word :: later) = .ok last) :
    last.file = some word := by
  rw [addAll_append] at h
  cases hearlier : draft.addAll earlier with
  | error e => simp [hearlier] at h
  | ok next =>
    simp only [hearlier, addAll, add] at h
    exact file_addAll hlater h

end Draft

namespace Request

theorem ofDraft_eq_ok {size : Nat} {draft : Draft} {info : String} {request : Request}
    (h : ofDraft size draft info = .ok request) :
    draft.host = some request.host ∧ draft.rule = some request.rule ∧
      draft.file = some request.file ∧ request.blockSize = draft.blockSize.getD size ∧
      request.checksum = draft.checksum ∧ request.quiet = draft.quiet := by
  unfold ofDraft at h
  split at h
  · contradiction
  · contradiction
  · contradiction
  · next host rule file hhost hrule hfile =>
    cases h
    exact ⟨hhost, hrule, hfile, rfl, rfl, rfl⟩

/-- What a complete request was read from. -/
theorem parse_eq_ok {line : String} {size : Nat} {request : Request}
    (h : parse line size = .ok request) :
    ∃ draft, Draft.addAll {} (Line.ofWords (wordsOf line)).items = .ok draft ∧
      draft.host = some request.host ∧ draft.rule = some request.rule ∧
      draft.file = some request.file ∧ request.blockSize = draft.blockSize.getD size ∧
      request.checksum = draft.checksum ∧ request.quiet = draft.quiet := by
  unfold parse at h
  cases hwords : wordsOf line with
  | nil => simp [hwords, ofWords] at h
  | cons word rest =>
    simp only [hwords, ofWords, ofLine] at h
    cases hdraft : Draft.addAll {} (Line.ofWords (word :: rest)).items with
    | error e => simp [hdraft] at h
    | ok draft =>
      simp only [hdraft] at h
      have hcomplete : ∃ info, ofDraft size draft info = .ok request := by
        cases hending : (Line.ofWords (word :: rest)).ending with
        | plain => exact ⟨_, by simpa [hending] using h⟩
        | info first more => exact ⟨_, by simpa [hending] using h⟩
        | unfinished flag => simp [hending] at h
      obtain ⟨info, hinfo⟩ := hcomplete
      exact ⟨draft, rfl, ofDraft_eq_ok hinfo⟩

/-- Requests of lines that are alike differ in the file and the information text only. -/
theorem parse_of_alike {line₁ line₂ : String} {size : Nat} {request₁ request₂ : Request}
    (halike : (Line.ofWords (wordsOf line₁)).Alike (Line.ofWords (wordsOf line₂)))
    (h₁ : parse line₁ size = .ok request₁) (h₂ : parse line₂ size = .ok request₂) :
    request₁.host = request₂.host ∧ request₁.rule = request₂.rule ∧
      request₁.blockSize = request₂.blockSize ∧ request₁.checksum = request₂.checksum ∧
      request₁.quiet = request₂.quiet := by
  obtain ⟨draft, hdraft, hhost, hrule, -, hsize, hchecksum, hquiet⟩ := parse_eq_ok h₁
  obtain ⟨draft₂, hdraft₂, hhost₂, hrule₂, -, hsize₂, hchecksum₂, hquiet₂⟩ := parse_eq_ok h₂
  obtain ⟨file, hfile⟩ := Draft.addAll_of_alike halike.items hdraft none
  have hsame : { draft with file } = draft₂ := Except.ok.inj (hfile.symm.trans hdraft₂)
  subst hsame
  refine ⟨Option.some.inj (hhost.symm.trans hhost₂), Option.some.inj (hrule.symm.trans hrule₂),
    hsize.trans hsize₂.symm, hchecksum.trans hchecksum₂.symm, hquiet.trans hquiet₂.symm⟩

/-- The file of a request is the last value of `-file`. -/
theorem file_of_parse {line : String} {size : Nat} {request : Request}
    (h : parse line size = .ok request) {earlier later : List Item} {word : String}
    (hitems : (Line.ofWords (wordsOf line)).items = earlier ++ .value .file word :: later)
    (hlater : ∀ item ∈ later, ∀ word, item ≠ .value .file word) : request.file = word := by
  obtain ⟨draft, hdraft, -, -, hfile, -⟩ := parse_eq_ok h
  rw [hitems] at hdraft
  exact Option.some.inj (hfile.symm.trans (Draft.file_of_last hlater hdraft))

end Request

end TransferGateway.Handoff
