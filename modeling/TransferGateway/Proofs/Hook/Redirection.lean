import TransferGateway.Proofs.Handoff.Lines
import TransferGateway.Proofs.Hook.Passage
import TransferGateway.Proofs.Template.Words

/-!
# What a path can change about a hand-off

The path of a retrieval comes from the client.  A line is not quoted, so a path with blanks in it
may bring flags of its own.  If the path shows only in values of `-file`, as one word, and in the
information text, then it changes nothing about the transfer but its file and its information.
-/

namespace TransferGateway

namespace Template

open Handoff

/-- The grouped line of some words of a template. -/
def lineOf (ctx : TransferContext) (words : List String) : Line :=
  Line.ofWords (words.flatMap (expandedWords ctx))

theorem lineOf_append (ctx : TransferContext) (earlier later : List String) :
    lineOf ctx (earlier ++ later) =
      (lineOf ctx earlier).follow (later.flatMap (expandedWords ctx)) := by
  rw [lineOf, List.flatMap_append, Line.ofWords_append, lineOf]

theorem lineOf_concat (ctx : TransferContext) (before : List String) (word : String) :
    lineOf ctx (before ++ [word]) = (lineOf ctx before).follow (expandedWords ctx word) := by
  rw [lineOf_append, List.flatMap_singleton]

/-- A word of a template that lets the path show in its place only: it is expanded without meeting
the marker of the file, or is a value of `-file` and expanded to one word, or belongs to the
information text. -/
inductive Contains (ctx : TransferContext) (before : List String) (word : String) : Prop where
  | apart {text : List Char} (h : ExpandsApart ctx word.toList text)
  | file {value : String} (hplace : (lineOf ctx before).ending = .unfinished (.value .file))
      (hone : expandedWords ctx word = [value])
  | info (hplace : (lineOf ctx before).ending.isInfo = true)

/-- Every one of the words after the given ones lets the path show in its place only. -/
def Confines (ctx : TransferContext) : List String → List String → Prop
  | _, [] => True
  | before, word :: rest => Contains ctx before word ∧ Confines ctx (before ++ [word]) rest

theorem expandedWords_withFile {ctx : TransferContext} {word : String} {text : List Char}
    (h : ExpandsApart ctx word.toList text) (file : String) :
    expandedWords { ctx with file } word = (Text.words text).map String.ofList := by
  have hwords := expandedWords_of_expands (h.expands file)
  rwa [String.ofList_toList] at hwords

/-- One more word that lets the path show in its place only keeps lines alike. -/
theorem Contains.alike {ctx : TransferContext} {file : String} {before : List String}
    {word : String} (h₁ : Contains ctx before word)
    (h₂ : Contains { ctx with file } before word)
    (halike : (lineOf ctx before).Alike (lineOf { ctx with file } before)) :
    (lineOf ctx (before ++ [word])).Alike (lineOf { ctx with file } (before ++ [word])) := by
  rw [lineOf_concat, lineOf_concat]
  have hinfo : (lineOf ctx before).ending.isInfo = true ↔
      (lineOf { ctx with file } before).ending.isInfo = true := by
    rcases halike.ending with hsame | ⟨hinfo₁, hinfo₂⟩
    · rw [hsame]
    · exact ⟨fun _ => hinfo₂, fun _ => hinfo₁⟩
  cases h₁ with
  | apart h =>
    have hsame : expandedWords { ctx with file } word = expandedWords ctx word := by
      rw [expandedWords_withFile h file, ← expandedWords_withFile h ctx.file]
    rw [hsame]
    exact halike.follow_same _
  | info hplace => exact halike.follow_info hplace (hinfo.1 hplace) _ _
  | file hplace₁ hone₁ =>
    cases h₂ with
    | apart h =>
      have hsame : expandedWords ctx word = expandedWords { ctx with file } word := by
        have hback := expandedWords_withFile h ctx.file
        have hthere := expandedWords_withFile h file
        exact hback.trans hthere.symm
      rw [hsame]
      exact halike.follow_same _
    | info hplace => exact halike.follow_info (hinfo.2 hplace) hplace _ _
    | file hplace₂ hone₂ =>
      rw [hone₁, hone₂]
      exact halike.follow_file hplace₁ hplace₂ _ _

/-- Words that let the path show in its place only make lines that are alike. -/
theorem alike_of_confines {ctx : TransferContext} {file : String} {before words : List String}
    (h₁ : Confines ctx before words) (h₂ : Confines { ctx with file } before words)
    (halike : (lineOf ctx before).Alike (lineOf { ctx with file } before)) :
    (lineOf ctx (before ++ words)).Alike (lineOf { ctx with file } (before ++ words)) := by
  induction words generalizing before with
  | nil => simpa using halike
  | cons word rest ih =>
    have hnext := ih h₁.2 h₂.2 (h₁.1.alike h₂.1 halike)
    rwa [List.append_assoc, List.singleton_append] at hnext

/-- The word of a template that gives the file: it is a value of `-file`, and no other one
follows. -/
def GivesFile (ctx : TransferContext) (template word : String) : Prop :=
  ∃ before after, wordsOf template = before ++ word :: after ∧
    (lineOf ctx before).ending = .unfinished (.value .file) ∧
    ∀ item ∈ (lineOf ctx after).items, ∀ value, item ≠ .value .file value

/-- The file of a request is what the word that gives it is expanded to. -/
theorem file_of_givesFile {ctx : TransferContext} {template line word value : String} {size : Nat}
    {request : Request} (hline : expand ctx template = some line)
    (hparse : Request.parse line size = .ok request) (hword : GivesFile ctx template word)
    (hone : expandedWords ctx word = [value]) : request.file = value := by
  obtain ⟨before, after, hwords, hplace, hlater⟩ := hword
  have hsplit : wordsOf template = before ++ [word] ++ after := by
    rw [hwords, List.append_assoc, List.singleton_append]
  have hfile : lineOf ctx (before ++ [word]) =
      ⟨(lineOf ctx before).items ++ [.value .file value], .plain⟩ := by
    rw [lineOf_concat, hone, Line.follow_file hplace]
  have hitems : (Line.ofWords (wordsOf line)).items =
      (lineOf ctx before).items ++ .value .file value :: (lineOf ctx after).items := by
    rw [wordsOf_expand hline, ← lineOf, hsplit, lineOf_append, hfile]
    show (lineOf ctx before).items ++ [.value .file value] ++ (lineOf ctx after).items = _
    rw [List.append_assoc, List.singleton_append]
  exact Request.file_of_parse hparse hitems hlater

end Template

namespace Gateway

open Template

/-- Two retrievals of one session, under the same policies, rules and settings, whose paths show
only in values of `-file` and in the information text: if both are enqueued then they go to the same
host under the same rule, with the same mode, block size and switches, and the file of each is what
the value of `-file` is expanded to. -/
theorem enqueued_of_confines {g₁ g₂ : Gateway} {session : Session} {command : Command}
    {path₁ path₂ template : String} {d₁ d₂ : Descriptor}
    (h₁ : (g₁.before session command path₁).1 = some (.ok (.enqueued d₁)))
    (h₂ : (g₂.before session command path₂).1 = some (.ok (.enqueued d₂)))
    (hregistry : g₁.registry = g₂.registry) (hsettings : g₁.handoff = g₂.handoff)
    (hrules : g₁.store.rules = g₂.store.rules)
    (htemplate : (g₁.registry.resolve session.policies .retrieve).template = template)
    (hconfines₁ : Confines (session.retrieval path₁) [] (wordsOf template))
    (hconfines₂ : Confines (session.retrieval path₂) [] (wordsOf template)) :
    (d₁.host = d₂.host ∧ d₁.rule = d₂.rule ∧ d₁.mode = d₂.mode ∧ d₁.blockSize = d₂.blockSize ∧
      d₁.checksum = d₂.checksum ∧ d₁.quiet = d₂.quiet) ∧
    (∀ word value, GivesFile (session.retrieval path₁) template word →
      expandedWords (session.retrieval path₁) word = [value] → d₁.file = value) ∧
    (∀ word value, GivesFile (session.retrieval path₂) template word →
      expandedWords (session.retrieval path₂) word = [value] → d₂.file = value) := by
  obtain ⟨line₁, request₁, rule₁, hline₁, hparse₁, hrule₁, rfl⟩ := before_enqueued h₁
  obtain ⟨line₂, request₂, rule₂, hline₂, hparse₂, hrule₂, rfl⟩ := before_enqueued h₂
  rw [← hregistry] at hline₂
  rw [htemplate] at hline₁ hline₂
  have hstart : (lineOf (session.retrieval path₁) []).Alike
      (lineOf (session.retrieval path₂) []) := ⟨.nil, .inl rfl⟩
  have halike : (lineOf (session.retrieval path₁) (wordsOf template)).Alike
      (lineOf (session.retrieval path₂) (wordsOf template)) :=
    alike_of_confines hconfines₁ hconfines₂ hstart
  rw [lineOf, lineOf, ← wordsOf_expand hline₁, ← wordsOf_expand hline₂] at halike
  rw [← hsettings] at hparse₂
  obtain ⟨hhost, hrule, hsize, hchecksum, hquiet⟩ :=
    Handoff.Request.parse_of_alike halike hparse₁ hparse₂
  have hfound : rule₁ = rule₂ := by
    have hlookup₁ := Store.lookup_eq_ok hrule₁
    have hlookup₂ := Store.lookup_eq_ok hrule₂
    rw [hrules, hrule, ← hlookup₂] at hlookup₁
    exact Option.some.inj hlookup₁
  refine ⟨⟨hhost, hrule, ?_, hsize, hchecksum, hquiet⟩, ?_, ?_⟩
  · simp only [Handoff.Settings.descriptor, hchecksum, hfound]
  · intro word value hword hone
    exact file_of_givesFile hline₁ hparse₁ hword hone
  · intro word value hword hone
    exact file_of_givesFile hline₂ hparse₂ hword hone

/-- A gateway that hands every retrieval off, by the given template. -/
def forwarding (template : String) : Gateway where
  registry := ⟨⟨.noAction, ⟨.handOff, template, .zero⟩⟩⟩
  admission := { limits := {} }
  store := { rules := ⟨[⟨"push", ⟨false, false, false⟩⟩]⟩ }
  handoff := ⟨"gateway", 65536⟩

/-- A session of the given user. -/
def clerk (user : String) : Session := { user, account := "acme", baseDirectory := "/srv" }

/-- The transfer that a forwarding gateway queues first. -/
def forwarded (host file : String) : Descriptor :=
  ⟨"gateway", host, "push", ⟨false, false, false⟩, file, 65536, false, false, "noinfo", some 1, 0⟩

/-- A path without marker that a forwarding gateway queues. -/
def Forwards (template user path : String) (descriptor : Descriptor) : Prop :=
  unsafeField? ((clerk user).retrieval path) = none ∧
    ((forwarding template).before (clerk user) (.transfer .retrieve) path).1 =
      some (.ok (.enqueued descriptor))

theorem forwards_of_expand {template user path line host file : String}
    (hsafe : unsafeField? ((clerk user).retrieval path) = none)
    (hline : expand ((clerk user).retrieval path) template = some line)
    (hresult : (Handoff.prepare (forwarding template).handoff line
      (forwarding template).store).result = .ok (forwarded host file)) :
    Forwards template user path (forwarded host file) := by
  have hacts : (forwarding template).Acts (clerk user) (.transfer .retrieve) path .handOff := by
    constructor
    · simp [Bypasses, clerk, Command.isSpecial]
    · rfl
    · rfl
    · rfl
    · exact hsafe
  exact ⟨hsafe, before_eq_enqueued hacts hline hresult⟩

theorem words_to_partner :
    wordsOf "-to partner -rule push -file #FILE#" =
      ["-to", "partner", "-rule", "push", "-file"] ++ ["#FILE#"] := by decide

theorem ending_to_partner (ctx : TransferContext) :
    (lineOf ctx ["-to", "partner", "-rule", "push", "-file"]).ending =
      .unfinished (.value .file) := by
  rw [lineOf, flatMap_expandedWords (by decide)]
  decide

theorem confines_to_partner {ctx : TransferContext} {value : String}
    (hone : expandedWords ctx "#FILE#" = [value]) :
    Confines ctx [] (wordsOf "-to partner -rule push -file #FILE#") := by
  rw [words_to_partner]
  exact ⟨.apart (.done (by decide)), .apart (.done (by decide)), .apart (.done (by decide)),
    .apart (.done (by decide)), .apart (.done (by decide)), .file (ending_to_partner ctx) hone,
    trivial⟩

theorem givesFile_to_partner (ctx : TransferContext) :
    GivesFile ctx "-to partner -rule push -file #FILE#" "#FILE#" :=
  ⟨_, [], words_to_partner, ending_to_partner ctx, fun _ h => absurd h List.not_mem_nil⟩

/-- A path that looks like a flag is only a file. -/
theorem enqueued_flag_path :
    ∃ d₁ d₂, Forwards "-to partner -rule push -file #FILE#" "alice" "a.dat" d₁ ∧
      Forwards "-to partner -rule push -file #FILE#" "alice" "-nolog" d₂ ∧
      (d₁.host = d₂.host ∧ d₁.rule = d₂.rule ∧ d₁.mode = d₂.mode ∧
        d₁.blockSize = d₂.blockSize ∧ d₁.checksum = d₂.checksum ∧ d₁.quiet = d₂.quiet) ∧
      d₁.file = "a.dat" ∧ d₂.file = "-nolog" := by
  have hline₁ : expand ((clerk "alice").retrieval "a.dat") "-to partner -rule push -file #FILE#" =
      some "-to partner -rule push -file a.dat" :=
    expand_of_round (by decide +kernel) (by decide +kernel) (by decide +kernel)
  have hline₂ : expand ((clerk "alice").retrieval "-nolog") "-to partner -rule push -file #FILE#" =
      some "-to partner -rule push -file -nolog" :=
    expand_of_round (by decide +kernel) (by decide +kernel) (by decide +kernel)
  have hword₁ : expand ((clerk "alice").retrieval "a.dat") "#FILE#" = some "a.dat" :=
    expand_of_round (by decide +kernel) (by decide +kernel) (by decide +kernel)
  have hword₂ : expand ((clerk "alice").retrieval "-nolog") "#FILE#" = some "-nolog" :=
    expand_of_round (by decide +kernel) (by decide +kernel) (by decide +kernel)
  have hone₁ : expandedWords ((clerk "alice").retrieval "a.dat") "#FILE#" = ["a.dat"] :=
    expandedWords_of_expand hword₁
  have hone₂ : expandedWords ((clerk "alice").retrieval "-nolog") "#FILE#" = ["-nolog"] :=
    expandedWords_of_expand hword₂
  have h₁ : Forwards "-to partner -rule push -file #FILE#" "alice" "a.dat"
      (forwarded "partner" "a.dat") := forwards_of_expand (by decide) hline₁ rfl
  have h₂ : Forwards "-to partner -rule push -file #FILE#" "alice" "-nolog"
      (forwarded "partner" "-nolog") := forwards_of_expand (by decide) hline₂ rfl
  obtain ⟨hsame, hfile₁, hfile₂⟩ := @enqueued_of_confines
    (forwarding "-to partner -rule push -file #FILE#")
    (forwarding "-to partner -rule push -file #FILE#") (clerk "alice") (.transfer .retrieve)
    "a.dat" "-nolog" "-to partner -rule push -file #FILE#" _ _ h₁.2 h₂.2 rfl rfl rfl rfl
    (confines_to_partner hone₁) (confines_to_partner hone₂)
  exact ⟨_, _, h₁, h₂, hsame, hfile₁ _ _ (givesFile_to_partner _) hone₁,
    hfile₂ _ _ (givesFile_to_partner _) hone₂⟩

/-- Two paths of one user without marker that a forwarding gateway queues for different hosts. -/
def Redirects (template user path₁ path₂ : String) (d₁ d₂ : Descriptor) : Prop :=
  Forwards template user path₁ d₁ ∧ Forwards template user path₂ d₂ ∧ d₁.host ≠ d₂.host

/-- What a path can do outside its place.  One with blanks brings flags of its own; an empty one
makes `-file` take the flag that follows; and fragments may join to the marker of the file where
the template has none. -/
theorem redirected_by_path :
    Redirects "-to partner -rule push -file #FILE#" "alice" "a.dat" "a.dat -to evil"
      (forwarded "partner" "a.dat") (forwarded "evil" "a.dat") ∧
    Redirects "-to partner -rule push -file #FILE# -to backup" "alice" "a.dat" ""
      (forwarded "backup" "a.dat") (forwarded "partner" "-to") ∧
    Redirects "-to #FI#USER# -rule push -file #FILE#" "LE#" "a.dat" "evil"
      (forwarded "a.dat" "a.dat") (forwarded "evil" "evil") := by
  have hplain : expand ((clerk "alice").retrieval "a.dat") "-to partner -rule push -file #FILE#" =
      some "-to partner -rule push -file a.dat" :=
    expand_of_round (by decide +kernel) (by decide +kernel) (by decide +kernel)
  have hblanks : expand ((clerk "alice").retrieval "a.dat -to evil")
      "-to partner -rule push -file #FILE#" = some "-to partner -rule push -file a.dat -to evil" :=
    expand_of_round (by decide +kernel) (by decide +kernel) (by decide +kernel)
  have hbackup : expand ((clerk "alice").retrieval "a.dat")
      "-to partner -rule push -file #FILE# -to backup" =
        some "-to partner -rule push -file a.dat -to backup" :=
    expand_of_round (by decide +kernel) (by decide +kernel) (by decide +kernel)
  have hempty : expand ((clerk "alice").retrieval "")
      "-to partner -rule push -file #FILE# -to backup" =
        some "-to partner -rule push -file  -to backup" :=
    expand_of_round (by decide +kernel) (by decide +kernel) (by decide +kernel)
  have hjoined : expand ((clerk "LE#").retrieval "a.dat")
      "-to #FI#USER# -rule push -file #FILE#" = some "-to a.dat -rule push -file a.dat" :=
    expand_of_round (by decide +kernel) (by decide +kernel) (by decide +kernel)
  have hjoined' : expand ((clerk "LE#").retrieval "evil")
      "-to #FI#USER# -rule push -file #FILE#" = some "-to evil -rule push -file evil" :=
    expand_of_round (by decide +kernel) (by decide +kernel) (by decide +kernel)
  refine ⟨⟨?_, ?_, by decide⟩, ⟨?_, ?_, by decide⟩, ?_, ?_, by decide⟩
  · exact forwards_of_expand (by decide) hplain rfl
  · exact forwards_of_expand (by decide) hblanks rfl
  · exact forwards_of_expand (by decide) hbackup rfl
  · exact forwards_of_expand (by decide) hempty rfl
  · exact forwards_of_expand (by decide) hjoined rfl
  · exact forwards_of_expand (by decide) hjoined' rfl

end Gateway

end TransferGateway
