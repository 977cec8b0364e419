import CertGate.Files

/-!
# Files that are written anew

Reading walks along a path, and each name but the last one stands for a directory on the way. Writing a
file anew that can be reached changes what stands at its own place and nothing else: no way to any other
file opens or closes.

## Key results

- `walk_eq_ok`: where a walk leads, and through what
- `node?_write`: what stands at each place after writing
- `read_write`: what a file holds after it was written
-/

namespace CertGate.Files

/-- A `walk` that succeeds leads to where the names lead, through directories only. -/
theorem walk_eq_ok (fs : Files) (place target : List String) (names : List (List Char))
    (h : fs.walk place names = .ok target) :
    target = names.foldl follow place ∧ ∀ p ∈ passed place names, fs.isDirectory p = true := by
  induction names generalizing place with
  | nil =>
    cases h
    exact ⟨rfl, nofun⟩
  | cons name names ih =>
    rw [walk] at h
    split at h
    · cases h
    · cases h
    · next hdirectory =>
      split at h
      · cases h
      · obtain ⟨htarget, hpassed⟩ := ih (follow place name) h
        refine ⟨htarget, List.forall_mem_cons.2 ⟨?_, hpassed⟩⟩
        -- only what is no file is looked up among the directories
        rw [node?] at hdirectory
        split at hdirectory
        · cases hdirectory
        · split at hdirectory
          · next hisDirectory => exact hisDirectory
          · cases hdirectory

-- a slash behind a file, and a way through a directory that is not there
example :
    let fs : Files := { location := "/work", entries := [("token", []), ("conf/a.env", [])] }
    ["./token", "token/", "token/../token", "nope/../token", "conf/../token", "conf", "nope"].map
        (fun path => (fs.read path).toOption.isSome) =
      [true, false, false, false, true, false, false] := by decide +kernel

section
variable {fs : Files} {path : String} {content : List UInt8}

/-- By `isDirectory` a directory is above the place to work from, or on the way to some file. -/
theorem isDirectory_iff (place : List String) : fs.isDirectory place = true ↔
    place.isPrefixOf fs.workplace = true ∨
      ∃ e ∈ fs.entries, place ∈ passed (fs.start e.1).1 (fs.start e.1).2 := by
  simp only [isDirectory, Bool.or_eq_true, List.any_eq_true, List.contains_iff_mem]

/-- `write` to a path that can be reached makes no directories and takes none away. -/
theorem isDirectory_write
    (hpassed : ∀ p ∈ passed (fs.start path).1 (fs.start path).2, fs.isDirectory p = true)
    (place : List String) : (fs.write path content).isDirectory place = fs.isDirectory place := by
  rw [Bool.eq_iff_iff, isDirectory_iff]
  constructor
  · -- a directory afterwards
    rintro (habove | ⟨e, hmem, hentry⟩)
    · exact isDirectory_iff place |>.2 (Or.inl habove)
    · obtain rfl | hmem := List.mem_cons.1 hmem
      · exact hpassed place hentry
      · exact (isDirectory_iff place).2 (Or.inr ⟨e, (List.mem_filter.1 hmem).1, hentry⟩)
  · -- a directory before
    intro h
    obtain habove | ⟨e, hmem, hentry⟩ := (isDirectory_iff place).1 h
    · exact Or.inl habove
    · by_cases hname : e.1 = path
      · -- the name that is written leads through the same directories
        exact Or.inr ⟨(path, content), List.mem_cons_self, hname ▸ hentry⟩
      · exact Or.inr ⟨e, List.mem_cons_of_mem _ (List.mem_filter.2 ⟨hmem, bne_iff_ne.2 hname⟩), hentry⟩

/-- `write` changes the content at one place and nothing else. -/
theorem node?_write
    (hpassed : ∀ p ∈ passed (fs.start path).1 (fs.start path).2, fs.isDirectory p = true)
    (place : List String) : (fs.write path content).node? place =
      if place = fs.placeOf path then some (.file content) else fs.node? place := by
  have hplaceOf : ∀ name, (fs.write path content).placeOf name = fs.placeOf name := fun name => rfl
  simp only [node?, isDirectory_write hpassed, hplaceOf]
  simp only [write, List.find?_cons]
  by_cases hplace : place = fs.placeOf path
  · -- the place that is written to
    rw [if_pos hplace, beq_iff_eq.2 hplace.symm]
  · have hothers : (fs.entries.filter (·.1 != path)).find? (fun e => fs.placeOf e.1 == place) =
        fs.entries.find? fun e => fs.placeOf e.1 == place := by
      rw [List.find?_filter]
      congr 1
      funext e
      rw [Bool.eq_iff_iff]
      -- a file at another place has another name
      by_cases hname : e.1 = path
      · simp [hname, Ne.symm hplace]
      · simp [hname]
    rw [if_neg hplace, beq_false_of_ne (Ne.symm hplace), hothers]

/-- `walk` leads where it led before a `write`. -/
theorem walk_write (bs : List UInt8) (hfile : fs.node? (fs.placeOf path) = some (.file bs))
    (hpassed : ∀ p ∈ passed (fs.start path).1 (fs.start path).2, fs.isDirectory p = true)
    (place : List String) (names : List (List Char)) :
    (fs.write path content).walk place names = fs.walk place names := by
  induction names generalizing place with
  | nil => rfl
  | cons name names ih =>
    rw [walk, walk, node?_write hpassed, ih]
    by_cases hplace : place = fs.placeOf path
    · -- names behind the file lead nowhere, whatever it holds
      rw [if_pos hplace, hplace, hfile]
    · rw [if_neg hplace]

/-- `read` gives what `write` has put into a file that could be read before. -/
theorem read_write (h : ∃ bs, fs.read path = .ok bs) :
    (fs.write path content).read path = .ok content := by
  obtain ⟨bs, h⟩ := h
  rw [read] at h
  -- what makes a path unreadable has nothing to do with what is written
  split at h
  · cases h
  split at h
  · cases h
  split at h
  · cases h
  split at h
  · cases h
  next hnul hempty hlong _ target hwalk =>
  obtain ⟨htarget, hpassed⟩ := fs.walk_eq_ok _ _ _ hwalk
  have htarget : target = fs.placeOf path := htarget
  split at h
  · next content' hfile =>
    rw [htarget] at hfile
    have hwalk' : (fs.write path content).walk (fs.start path).1 (fs.start path).2 = .ok target :=
      (walk_write content' hfile hpassed _ _).trans hwalk
    have hstart : (fs.write path content).start path = fs.start path := rfl
    rw [read, if_neg hnul, if_neg hempty, if_neg hlong, hstart, hwalk']
    simp only [node?_write hpassed, if_pos htarget]
  · cases h
  · cases h

end

end CertGate.Files
