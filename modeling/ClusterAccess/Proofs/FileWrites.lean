import ClusterAccess.Proofs.FileSystem

namespace ClusterAccess

namespace FileSystem

variable {fs fs' : FileSystem} {start place : Place} {e : Entry} {parts : List String}
  {found : Found} {bytes old : List UInt8} {slash : Bool}

theorem find?_of_walk_present (h : fs.walk start e parts = .ok (.present place (.file bytes))) :
    start = place ∧ e = .file bytes ∨ fs.find? place = some (.file bytes) := by
  fun_induction fs.walk start e parts with
  | case1 start e =>
    cases h
    exact .inl ⟨rfl, rfl⟩
  | case2 => cases h
  | case3 start part more hpart ih => exact .inr ((ih h).resolve_left fun he => by cases he.2)
  | case4 start part more hpart hup ih => exact .inr ((ih h).resolve_left fun he => by cases he.2)
  | case5 => cases h
  | case6 start part more hpart hup hlong e he ih =>
    obtain ⟨rfl, rfl⟩ | hf := ih h
    · exact .inr he
    · exact .inr hf
  | case7 => cases h
  | case8 => cases h

theorem find?_of_walk_file
    (h : fs.walk start .directory parts = .ok (.present place (.file bytes))) :
    fs.find? place = some (.file bytes) :=
  (find?_of_walk_present h).resolve_left fun he => by cases he.2

theorem find?_of_walk_absent (h : fs.walk start e parts = .ok (.absent place slash)) :
    fs.find? place = none := by
  fun_induction fs.walk start e parts with
  | case1 => cases h
  | case2 => cases h
  | case3 start part more hpart ih => exact ih h
  | case4 start part more hpart hup ih => exact ih h
  | case5 => cases h
  | case6 start part more hpart hup hlong e he ih => exact ih h
  | case7 start part more hpart hup hlong hn hall =>
    cases h
    exact hn
  | case8 => cases h

/-- A file can be put where a path leads: at the place of another one, or where nothing is. -/
inductive Found.Takes (place : Place) : Found → Prop where
  | file {bytes : List UInt8} : Takes place (.present place (.file bytes))
  | nothing : Takes place (.absent place false)

theorem Found.Takes.find? (hf : found.Takes place)
    (h : fs.walk start .directory parts = .ok found) : fs.find? place ≠ some .directory := by
  cases hf with
  | file =>
    rw [find?_of_walk_file h]
    nofun
  | nothing =>
    rw [find?_of_walk_absent h]
    nofun

/-- A path that led to a place for a file leads to the file that is put there. -/
theorem walk_of_directories
    (hdir : ∀ p, fs.find? p = some .directory → fs'.find? p = some .directory)
    (hfile : fs'.find? place = some (.file bytes)) (hf : found.Takes place)
    (h : fs.walk start .directory parts = .ok found) :
    fs'.walk start .directory parts = .ok (.present place (.file bytes)) := by
  generalize he : Entry.directory = e at h ⊢
  fun_induction fs.walk start e parts with
  | case1 =>
    subst he
    cases h
    cases hf
  | case2 => cases h
  | case3 start part more hpart ih =>
    rw [walk, if_pos hpart]
    exact ih rfl h
  | case4 start part more hpart hup ih =>
    rw [walk, if_neg hpart, if_pos hup]
    exact ih rfl h
  | case5 => cases h
  | case6 start part more hpart hup hlong e hfind ih =>
    rw [walk, if_neg hpart, if_neg hup, if_neg hlong]
    cases e with
    | directory =>
      rw [hdir _ hfind]
      exact ih rfl h
    | file old =>
      cases more with
      | nil =>
        cases h
        cases hf
        rw [hfile]
        rfl
      | cons => cases h
  | case7 start part more hpart hup hlong hnone hall =>
    cases h
    generalize hmore : (!more.isEmpty) = slash at hf
    cases hf
    obtain rfl : more = [] := by simpa using hmore
    rw [walk, if_neg hpart, if_neg hup, if_neg hlong, hfile]
    rfl
  | case8 => cases h

end FileSystem

namespace Host

open FileSystem

variable {h h' h'' : Host} {path : String} {place : Place} {found : Found} {bytes : List UInt8}

structure Keeps (h h' : Host) : Prop where
  home : h'.home = h.home
  workingDirectory : h'.workingDirectory = h.workingDirectory
  entries : ∀ place e, h.files.find? place = some e → h'.files.find? place = some e
  files : ∀ place bytes, h'.files.find? place = some (.file bytes) →
    h.files.find? place = some (.file bytes)

theorem Keeps.refl (h : Host) : h.Keeps h := ⟨rfl, rfl, fun _ _ he => he, fun _ _ hf => hf⟩

theorem Keeps.trans (hk : h.Keeps h') (hk' : h'.Keeps h'') : h.Keeps h'' where
  home := hk'.home.trans hk.home
  workingDirectory := hk'.workingDirectory.trans hk.workingDirectory
  entries place e he := hk'.entries place e (hk.entries place e he)
  files place bytes hf := hk.files place bytes (hk'.files place bytes hf)

theorem exists_walk_of_find (hf : h.find path = .ok found) :
    ∃ start, h.files.walk start .directory (Path.parts path) = .ok found := by
  rw [find] at hf
  split at hf
  · cases hf
  split at hf
  · cases hf
  split at hf
  · cases hf
  exact ⟨_, hf⟩

theorem find_of_directories (hw : h'.workingDirectory = h.workingDirectory)
    (hdir : ∀ p, h.files.find? p = some .directory → h'.files.find? p = some .directory)
    (hfile : h'.files.find? place = some (.file bytes)) (ht : found.Takes place)
    (hf : h.find path = .ok found) : h'.find path = .ok (.present place (.file bytes)) := by
  rw [find] at hf ⊢
  split at hf
  · cases hf
  next hempty =>
  split at hf
  · cases hf
  next hnul =>
  split at hf
  · cases hf
  next hlong =>
  rw [if_neg hempty, if_neg hnul, if_neg hlong, hw]
  exact walk_of_directories hdir hfile ht hf

theorem keeps_makeDirectory (hm : h.makeDirectory path = .ok h') : h.Keeps h' := by
  obtain ⟨found, hf, hm⟩ := Except.bind_eq_ok_iff.1 hm
  obtain ⟨start, hwalk⟩ := exists_walk_of_find hf
  cases found with
  | present => cases hm
  | absent place slash =>
    cases hm
    have hnone := find?_of_walk_absent hwalk
    refine ⟨rfl, rfl, ?_, ?_⟩
    · intro p e he
      have hne : p ≠ place := by
        intro hp
        rw [hp, hnone] at he
        cases he
      rw [find?_put_of_ne _ _ hne]
      exact he
    · intro p bytes hfile
      by_cases hp : p = place
      · rw [hp, find?_put_self] at hfile
        cases hfile
      · rw [find?_put_of_ne _ _ hp] at hfile
        exact hfile

theorem keeps_ensureDirectory (hm : h.ensureDirectory path = .ok h') : h.Keeps h' := by
  rw [ensureDirectory] at hm
  split at hm
  next hmade =>
    cases hm
    exact keeps_makeDirectory hmade
  next =>
    split at hm
    · cases hm
      exact .refl h
    · cases hm

theorem keeps_makeDirectories_go {fuel : Nat} (hm : makeDirectories.go h fuel path = .ok h') :
    h.Keeps h' := by
  induction fuel generalizing path h' with
  | zero =>
    cases hm
    exact .refl h
  | succ fuel ih =>
    rw [makeDirectories.go] at hm
    split at hm
    · cases hm
      exact .refl h
    split at hm
    · split at hm
      · obtain ⟨above, habove, hm⟩ := Except.bind_eq_ok_iff.1 hm
        exact (ih habove).trans (keeps_ensureDirectory hm)
      · cases hm
    · exact keeps_ensureDirectory hm

theorem keeps_makeDirectories (hm : h.makeDirectories path = .ok h') : h.Keeps h' :=
  keeps_makeDirectories_go hm

/-- All that stands elsewhere stays there, and no other file comes to the system. -/
structure Puts (h : Host) (place : Place) (bytes : List UInt8) (h' : Host) : Prop where
  home : h'.home = h.home
  workingDirectory : h'.workingDirectory = h.workingDirectory
  free : h.files.find? place ≠ some .directory
  file : h'.files.find? place = some (.file bytes)
  entries : ∀ p e, p ≠ place → h.files.find? p = some e → h'.files.find? p = some e
  others : ∀ p old, p ≠ place → h'.files.find? p = some (.file old) →
    h.files.find? p = some (.file old)

theorem puts_put (h : Host) (bytes : List UInt8) (hfree : h.files.find? place ≠ some .directory) :
    h.Puts place bytes { h with files := h.files.put place (.file bytes) } where
  home := rfl
  workingDirectory := rfl
  free := hfree
  file := find?_put_self _ _ _
  entries p e hne he := by
    rw [find?_put_of_ne _ _ hne]
    exact he
  others p old hne hf := by
    rw [find?_put_of_ne _ _ hne] at hf
    exact hf

theorem Keeps.puts (hk : h.Keeps h') (hp : h'.Puts place bytes h'') : h.Puts place bytes h'' where
  home := hp.home.trans hk.home
  workingDirectory := hp.workingDirectory.trans hk.workingDirectory
  free hd := hp.free (hk.entries _ _ hd)
  file := hp.file
  entries p e hne he := hp.entries p e hne (hk.entries p e he)
  others p old hne hf := hk.files p old (hp.others p old hne hf)

namespace Puts

variable (hp : h.Puts place bytes h')

include hp

theorem directories (p : Place) (hd : h.files.find? p = some .directory) :
    h'.files.find? p = some .directory :=
  hp.entries p _ (fun he => hp.free (he ▸ hd)) hd

theorem find_of_takes (ht : found.Takes place) (hf : h.find path = .ok found) :
    h'.find path = .ok (.present place (.file bytes)) :=
  find_of_directories hp.workingDirectory hp.directories hp.file ht hf

theorem find_of_ne {p : Place} {old : List UInt8} (hne : p ≠ place)
    (hf : h.find path = .ok (.present p (.file old))) :
    h'.find path = .ok (.present p (.file old)) := by
  obtain ⟨start, hwalk⟩ := exists_walk_of_find hf
  have hold := hp.entries p _ hne (find?_of_walk_file hwalk)
  exact find_of_directories hp.workingDirectory hp.directories hold .file hf

end Puts

/-- A write puts the file at a place that the path leads to. -/
theorem exists_puts_of_write (hw : h.write path bytes = .ok h') :
    ∃ place, h.Puts place bytes h' ∧ h'.find path = .ok (.present place (.file bytes)) := by
  suffices hput : ∃ place found, h.find path = .ok found ∧ found.Takes place ∧
      h' = { h with files := h.files.put place (.file bytes) } by
    obtain ⟨place, found, hf, ht, rfl⟩ := hput
    obtain ⟨start, hwalk⟩ := exists_walk_of_find hf
    have hp := puts_put h bytes (ht.find? hwalk)
    exact ⟨place, hp, hp.find_of_takes ht hf⟩
  obtain ⟨found, hf, hw⟩ := Except.bind_eq_ok_iff.1 hw
  cases found with
  | present place e =>
    cases e with
    | file =>
      cases hw
      exact ⟨place, _, hf, .file, rfl⟩
    | directory => cases hw
  | absent place slash =>
    cases slash with
    | true => cases hw
    | false =>
      cases hw
      exact ⟨place, _, hf, .nothing, rfl⟩

theorem read_eq_ok_iff : h.read path = .ok bytes ↔
    ∃ place, h.find path = .ok (.present place (.file bytes)) := by
  rw [read, Except.bind_eq_ok_iff]
  constructor
  · rintro ⟨found, hf, hr⟩
    cases found with
    | present place e =>
      cases e with
      | file =>
        cases hr
        exact ⟨place, hf⟩
      | directory => cases hr
    | absent => cases hr
  · rintro ⟨place, hf⟩
    exact ⟨_, hf, rfl⟩

end Host

end ClusterAccess
