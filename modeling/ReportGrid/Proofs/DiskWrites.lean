import ReportGrid.Command.Disk

/-!
# Writing to a disk

What a disk is after a file has been written: the file holds what was written
(`Disk.bytes?_put`), every other file is as it was (`Disk.bytes?_put_of_ne`), and every path that
led somewhere leads there still (`Disk.target_put`), so that the file can be read back
(`Disk.read_put`).

A file that is written for the first time makes no path worse.  All directories stay
(`Disk.isDirectory_put`), and a path only asks on its way whether directories are there.
-/

namespace ReportGrid

namespace Location

/-- Nothing lies below itself. -/
theorem isBelow_self (place : Location) : place.isBelow place = false := by
  simp [isBelow]

end Location

namespace Disk

variable {disk : Disk} {place : Location} {bytes : ByteArray}

/-! ## Files -/

/-- A file holds what was written. -/
theorem bytes?_put : (disk.put place bytes).bytes? place = some bytes := by
  simp [bytes?, put]

/-- Every other file is as it was. -/
theorem bytes?_put_of_ne {other : Location} (h : other ≠ place) :
    (disk.put place bytes).bytes? other = disk.bytes? other := by
  have hskip : ∀ {found : Location} (held : ByteArray) (files : List (Location × ByteArray)),
      other ≠ found → ((found, held) :: files).lookup other = files.lookup other := by
    intro found held files hfound
    rw [List.lookup_cons, beq_false_of_ne hfound]
  have hfilter : ∀ files : List (Location × ByteArray),
      (files.filter fun file => file.1 ≠ place).lookup other = files.lookup other := by
    intro files
    induction files with
    | nil => rfl
    | cons file files ih =>
        obtain ⟨found, held⟩ := file
        by_cases hfound : found = place
        · rw [List.filter_cons_of_neg (by simpa using hfound), ih, hskip held files (hfound ▸ h)]
        · rw [List.filter_cons_of_pos (by simpa using hfound), List.lookup_cons, List.lookup_cons,
            ih]
  rw [bytes?, put, hskip bytes _ h, hfilter]
  rfl

/-- Whether a disk is another one with some bytes written to one place. -/
structure IsWritten (after before : Disk) (place : Location) (bytes : ByteArray) : Prop where
  held : after.bytes? place = some bytes
  others : ∀ other, other ≠ place → after.bytes? other = before.bytes? other
  input : after.input = before.input
  printed : after.printed = before.printed
  barred : after.barred = before.barred

theorem isWritten_put (before : Disk) (place : Location) (bytes : ByteArray) :
    (before.put place bytes).IsWritten before place bytes :=
  ⟨bytes?_put, fun _ hother => bytes?_put_of_ne hother, rfl, rfl, rfl⟩

/-! ## Directories and paths -/

/-- All directories stay, and those around the file are there. -/
theorem isDirectory_put (other : Location) :
    (disk.put place bytes).isDirectory other = (disk.isDirectory other || place.isBelow other) := by
  have hrest : ∀ files : List (Location × ByteArray),
      (place.isBelow other ||
          (files.filter fun file => file.1 ≠ place).any fun file => file.1.isBelow other) =
        ((files.any fun file => file.1.isBelow other) || place.isBelow other) := by
    intro files
    induction files with
    | nil => simp
    | cons file files ih =>
        by_cases hfile : file.1 = place
        · subst hfile
          cases hbelow : file.1.isBelow other <;> simp_all
        · cases hbelow : place.isBelow other <;> simp_all
  simp only [isDirectory, put, List.any_cons, Bool.or_assoc, hrest]

theorem descend_put {name : List Char} {start finish : Location}
    (h : disk.descend start name = .ok finish) :
    (disk.put place bytes).descend start name = .ok finish := by
  unfold descend at h ⊢
  split at h
  · simp at h
  · rename_i hname
    split at h
    · rename_i hdirectory
      simpa [hname, isDirectory_put, hdirectory] using h
    · split at h <;> simp at h

theorem enter_put {part : List Char} {start finish : Location}
    (h : disk.enter start part = .ok finish) :
    (disk.put place bytes).enter start part = .ok finish := by
  unfold enter at h ⊢
  split at h
  · rename_i hhere
    rwa [if_pos hhere]
  · rename_i hhere
    rw [if_neg hhere]
    split at h
    · rename_i hup
      rwa [if_pos hup]
    · rename_i hup
      rw [if_neg hup]
      exact descend_put h

/-- A way through directories stays. -/
theorem walk_put {parts : List (List Char)} {start finish : Location}
    (h : disk.walk start parts = .ok finish) :
    (disk.put place bytes).walk start parts = .ok finish := by
  induction parts generalizing start with
  | nil => exact h
  | cons part parts ih =>
      simp only [walk, bind, Except.bind] at h ⊢
      cases henter : disk.enter start part with
      | error e => simp [henter] at h
      | ok next =>
          rw [henter] at h
          rw [enter_put henter]
          exact ih h

theorem target_put {path : String} {t : Target} (h : disk.target path = .ok t) :
    (disk.put place bytes).target path = .ok t := by
  have hmap : ∀ {start : Location} {parts : List (List Char)} {f : Location → Target},
      (disk.walk start parts).map f = .ok t →
        ((disk.put place bytes).walk start parts).map f = .ok t := by
    intro start parts f hwalk
    cases hfinish : disk.walk start parts with
    | error e => simp [hfinish, Except.map] at hwalk
    | ok finish =>
        rw [hfinish] at hwalk
        rwa [walk_put hfinish]
  unfold target at h ⊢
  grind

/-! ## Reading back -/

/-- What a path is that a file may be written to. -/
theorem target_of_destination {path : String} (h : disk.destination path = .ok place) :
    disk.barred .writing path = none ∧
      ∃ directory name, disk.target path = .ok (.entry directory name) ∧
        place = directory.child name ∧ Path.endsWithSlash path = false ∧
        Path.isLongName name = false ∧ disk.isDirectory place = false := by
  simp only [destination, grant, bind, Except.bind] at h
  cases hbarred : disk.barred .writing path with
  | some e => simp [hbarred] at h
  | none =>
      cases htarget : disk.target path with
      | error e => simp [hbarred, htarget] at h
      | ok t =>
          cases t with
          | directory found => simp [hbarred, htarget] at h
          | entry directory name =>
              simp only [hbarred, htarget, Option.elim_none] at h
              split at h
              · simp at h
              · split at h
                · simp at h
                · split at h
                  · simp at h
                  · rename_i hslash hname hdirectory
                    obtain rfl := Except.ok.inj h
                    simp only [Bool.not_eq_true] at hslash hname hdirectory
                    exact ⟨rfl, directory, name, rfl, rfl, hslash, hname, hdirectory⟩

/-- A path that leads to a name which no directory has may be written to. -/
theorem destination_of_target {path : String} {directory : Location} {name : List Char}
    (hbarred : disk.barred .writing path = none)
    (htarget : disk.target path = .ok (.entry directory name))
    (hslash : Path.endsWithSlash path = false) (hname : Path.isLongName name = false)
    (hdirectory : disk.isDirectory (directory.child name) = false) :
    disk.destination path = .ok (directory.child name) := by
  simp [destination, grant, bind, Except.bind, hbarred, htarget, hslash, hname, hdirectory]

/-- A path that leads to a file reads the bytes of the file. -/
theorem read_of_target {path : String} {directory : Location} {name : List Char}
    (hbarred : disk.barred .reading path = none)
    (htarget : disk.target path = .ok (.entry directory name))
    (hslash : Path.endsWithSlash path = false) (hname : Path.isLongName name = false)
    (hdirectory : disk.isDirectory (directory.child name) = false)
    (hbytes : disk.bytes? (directory.child name) = some bytes) : disk.read path = .ok bytes := by
  simp [read, grant, bind, Except.bind, hbarred, htarget, hslash, hname, hdirectory, hbytes]

/-- **What was written is read back** by the path that it was written to. -/
theorem read_put {path : String} (h : disk.destination path = .ok place)
    (hreading : disk.barred .reading path = none) :
    (disk.put place bytes).read path = .ok bytes := by
  obtain ⟨-, directory, name, htarget, rfl, hslash, hname, hdirectory⟩ := target_of_destination h
  have hstill : (disk.put (directory.child name) bytes).isDirectory (directory.child name) =
      false := by
    simp [isDirectory_put, hdirectory, Location.isBelow_self]
  exact read_of_target hreading (target_put htarget) hslash hname hstill bytes?_put

end Disk

end ReportGrid
