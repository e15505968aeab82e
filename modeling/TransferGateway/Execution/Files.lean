import TransferGateway.SystemError

/-!
# Opening files

What a machine answers when a path is opened and the metadata of the open file are read.  How it
comes to its answers is left open, be it by permissions, by links or by the state of a disk.
-/

namespace TransferGateway

/-- What an open file is. -/
inductive FileKind where
  | regular
  /-- A directory, a device, a pipe or a socket. -/
  | special
deriving DecidableEq, Repr, Inhabited

/-- A file that was opened. -/
structure OpenFile where
  /-- What its metadata say it is, unless they cannot be read. -/
  kind : Except SystemError FileKind

/-- The files of a machine: what opening a path comes to. -/
structure Files where
  opened : String → Except SystemError OpenFile

namespace Files

/-- A machine without files. -/
def empty : Files := ⟨fun _ => .error (.number 2)⟩

instance : Inhabited Files := ⟨empty⟩

/-- Open a path and make sure that it is a regular file. -/
def checkRegular (files : Files) (path : String) : Except SystemError Unit :=
  match files.opened path with
  | .error e => .error e
  | .ok file =>
    match file.kind with
    | .error e => .error e
    | .ok .regular => .ok ()
    | .ok .special => .error .notRegular

/-- A regular file can be opened at a path. -/
def HasFile (files : Files) (path : String) : Prop :=
  ∃ file, files.opened path = .ok file ∧ file.kind = .ok .regular

/-- Why no regular file can be opened at a path, and the error that says so. -/
inductive Lacks (files : Files) (path : String) : SystemError → Prop where
  | unopened {e : SystemError} (h : files.opened path = .error e) : Lacks files path e
  | unread {file : OpenFile} {e : SystemError} (h : files.opened path = .ok file)
      (hkind : file.kind = .error e) : Lacks files path e
  | special {file : OpenFile} (h : files.opened path = .ok file)
      (hkind : file.kind = .ok .special) : Lacks files path .notRegular

variable {files : Files} {path : String} {e : SystemError}

theorem checkRegular_eq_ok_iff : files.checkRegular path = .ok () ↔ files.HasFile path := by
  unfold checkRegular HasFile
  cases files.opened path with
  | error e => simp
  | ok file =>
    cases hkind : file.kind with
    | error e => simp [hkind]
    | ok kind => cases kind <;> simp [hkind]

theorem checkRegular_eq_error_iff : files.checkRegular path = .error e ↔ files.Lacks path e := by
  unfold checkRegular
  constructor
  · intro h
    cases hopened : files.opened path with
    | error cause =>
      rw [hopened] at h
      obtain rfl := Except.error.inj h
      exact .unopened hopened
    | ok file =>
      cases hkind : file.kind with
      | error cause =>
        simp only [hopened, hkind] at h
        obtain rfl := Except.error.inj h
        exact .unread hopened hkind
      | ok kind =>
        cases kind with
        | regular => simp [hopened, hkind] at h
        | special =>
          simp only [hopened, hkind] at h
          obtain rfl := Except.error.inj h
          exact .special hopened hkind
  · intro h
    cases h with
    | unopened hopened => rw [hopened]
    | unread hopened hkind => simp only [hopened, hkind]
    | special hopened hkind => simp only [hopened, hkind]

end Files

end TransferGateway
