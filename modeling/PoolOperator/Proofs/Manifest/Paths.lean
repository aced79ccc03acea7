import PoolOperator.Manifest
import PoolOperator.Proofs.Except

/-!
# Paths into a folder

What a name in a folder leads to (`FileSystem.lookUp_entry`, `FileSystem.lookUp_link`): to the
entry of that name, or, if that is a symbolic link, to what the path of the link leads to.

A path is walked name by name, and begins anew at each link.  So a longer path goes on where
its beginning arrived (`walk_append`), with as many links as are left (`resolve_append`).  The
number of links matters only if there are too many (`resolve_of_le`).
-/

namespace PoolOperator

/-- Can a text be the name of something in a folder? -/
structure IsEntryName (name : String) : Prop where
  filled : name ≠ ""
  notHere : name ≠ "."
  notUp : name ≠ ".."
  noSlash : '/' ∉ name.toList

/-- Are the names in a folder as on a disk?  They differ, and none of them is a path. -/
structure Folder.WellNamed (folder : Folder) : Prop where
  distinct : (folder.map Prod.fst).Nodup
  names : ∀ name ∈ folder.map Prod.fst, IsEntryName name

namespace Folder

theorem find?_of_mem {folder : Folder} (distinct : (folder.map Prod.fst).Nodup) {name : String}
    {entry : FolderEntry} (member : (name, entry) ∈ folder) : folder.find? name = some entry := by
  induction folder with
  | nil => exact absurd member List.not_mem_nil
  | cons first rest induction =>
      obtain ⟨other, others⟩ := List.nodup_cons.mp distinct
      rw [find?]
      rcases List.mem_cons.mp member with rfl | later
      · rw [List.find?_cons_of_pos (by simp)]
        rfl
      · have apart : first.1 ≠ name := fun same => other (same ▸ List.mem_map_of_mem later)
        rw [List.find?_cons_of_neg (by simpa using apart)]
        exact induction others later

/-- What is in a folder at some place is at a longer one. -/
theorem entryAt?_concat {root entries : Folder} {place : List String}
    (there : root.entryAt? place = some (.folder entries)) (name : String) :
    root.entryAt? (place ++ [name]) = entries.find? name := by
  fun_induction entryAt? root place with
  | case1 =>
      cases there
      rfl
  | case2 root first =>
      rw [List.singleton_append, entryAt?, there]
      · rfl
      · simp
  | case3 root first names notLast inner found induction =>
      rw [List.cons_append, entryAt?, found]
      · exact induction there
      · simp
  | case4 => cases there

end Folder

namespace FileSystem

/-! ## Walking -/

/-- Where a path leads that goes on from a stop. -/
def Stop.onward (root : Folder) (rest : List String) : Stop → Except FileError Stop
  | .arrived place => walk root place rest
  | .linked folder left => .ok (.linked folder (left ++ rest))

variable {root entries : Folder} {here place folder left names : List String} {stop : Stop}

/-- A longer path goes on where its beginning stopped. -/
theorem walk_append (ends : walk root here names = .ok stop)
    (there : ∀ place, stop = .arrived place →
      ∃ entries, root.entryAt? place = some (.folder entries))
    (rest : List String) : walk root here (names ++ rest) = stop.onward root rest := by
  fun_induction walk root here names with
  | case1 here =>
      cases ends
      rfl
  | case2 here name names skipped induction =>
      rw [List.cons_append, walk, if_pos skipped]
      exact induction ends
  | case3 here names notSkipped induction =>
      rw [List.cons_append, walk, if_neg (by decide), if_pos rfl]
      exact induction ends
  | case4 => cases ends
  | case5 here name names notSkipped notUp inner found induction =>
      rw [List.cons_append, walk, if_neg notSkipped, if_neg notUp, found]
      exact induction ends
  | case6 here name names notSkipped notUp target found =>
      cases ends
      rw [List.cons_append, walk, if_neg notSkipped, if_neg notUp, found, Stop.onward,
        List.append_assoc]
  | case7 here name names notSkipped notUp entry noFolder noLink found last =>
      cases ends
      obtain ⟨entries, opened⟩ := there _ rfl
      exact absurd (Option.some.inj (found.symm.trans opened)) (noFolder _)
  | case8 => cases ends

/-- A path does not lead on through an entry that is neither a folder nor a link. -/
theorem walk_hindered {name : String} {entry : FolderEntry}
    (notSkipped : ¬(name = "" || name = ".") = true) (notUp : ¬name = "..")
    (found : root.entryAt? (here ++ [name]) = some entry)
    (noFolder : ∀ entries, entry = .folder entries → False)
    (noLink : ∀ target, entry = .link target → False) (notLast : names ≠ []) :
    walk root here (name :: names) = .error entry.hindrance := by
  rw [walk, if_neg notSkipped, if_neg notUp, found]
  cases entry with
  | folder entries => exact (noFolder entries rfl).elim
  | link target => exact (noLink target rfl).elim
  | _ => exact if_neg (by simpa using notLast)

/-- The same stop on a path with a slash at its end. -/
def Stop.closed : Stop → Stop
  | .arrived place => .arrived place
  | .linked folder left => .linked folder (left ++ [""])

/-- Without the slash at its end, a path stops at the same place. -/
theorem walk_of_closed (ends : walk root here (names ++ [""]) = .ok stop) :
    ∃ stop' : Stop, walk root here names = .ok stop' ∧ stop = stop'.closed := by
  fun_induction walk root here names with
  | case1 here =>
      cases ends
      exact ⟨_, rfl, rfl⟩
  | case2 here name names skipped induction =>
      rw [List.cons_append, walk, if_pos skipped] at ends
      exact induction ends
  | case3 here names notSkipped induction =>
      rw [List.cons_append, walk, if_neg (by decide), if_pos rfl] at ends
      exact induction ends
  | case4 here name names notSkipped notUp missing =>
      rw [List.cons_append, walk, if_neg notSkipped, if_neg notUp, missing] at ends
      cases ends
  | case5 here name names notSkipped notUp inner found induction =>
      rw [List.cons_append, walk, if_neg notSkipped, if_neg notUp, found] at ends
      exact induction ends
  | case6 here name names notSkipped notUp target found =>
      rw [List.cons_append, walk, if_neg notSkipped, if_neg notUp, found] at ends
      cases ends
      exact ⟨_, rfl, by rw [Stop.closed, List.append_assoc]⟩
  | case7 here name names notSkipped notUp entry noFolder noLink found =>
      rw [List.cons_append, walk_hindered notSkipped notUp found noFolder noLink (by simp)] at ends
      cases ends
  | case8 here name names notSkipped notUp entry noFolder noLink found =>
      rw [List.cons_append, walk_hindered notSkipped notUp found noFolder noLink (by simp)] at ends
      cases ends

/-- Where a path stops whose last name is that of an entry. -/
def Stop.atEntry (here : List String) (name : String) : FolderEntry → Stop
  | .link target => .linked (origin here target) (namesOf target)
  | _ => .arrived (here ++ [name])

theorem walk_name {name : String} {entry : FolderEntry} (isName : IsEntryName name)
    (found : root.entryAt? (here ++ [name]) = some entry) :
    walk root here [name] = .ok (.atEntry here name entry) := by
  rw [walk, if_neg (by simp [isName.filled, isName.notHere]), if_neg isName.notUp, found]
  cases entry <;> simp [walk, Stop.atEntry]

/-! ## Following links -/

/-- Where a longer path leads is found with the links that are left in the folder to which its
beginning leads. -/
theorem resolve_append {walks : Nat} (resolved : resolve root walks here names = .ok place)
    (there : root.entryAt? place = some (.folder entries)) :
    ∃ left : Nat, left + 1 ≤ walks ∧ ∀ rest : List String,
      resolve root walks here (names ++ rest) = resolve root (left + 1) place rest := by
  induction walks generalizing here names with
  | zero => cases resolved
  | succ walks induction =>
      obtain ⟨stop, walked, resolved⟩ := Except.bind_eq_ok_iff.mp resolved
      cases stop with
      | arrived place' =>
          cases resolved
          refine ⟨walks, Nat.le_refl _, fun rest => ?_⟩
          rw [resolve, walk_append walked (by rintro _ ⟨⟩; exact ⟨entries, there⟩)]
          rfl
      | linked folder names' =>
          obtain ⟨left, fewer, same⟩ := induction resolved
          refine ⟨left, Nat.le_succ_of_le fewer, fun rest => ?_⟩
          rw [resolve, walk_append walked (by rintro _ ⟨⟩)]
          exact same rest

theorem resolve_of_closed {walks : Nat}
    (resolved : resolve root walks here (names ++ [""]) = .ok place) :
    resolve root walks here names = .ok place := by
  induction walks generalizing here names with
  | zero => cases resolved
  | succ walks induction =>
      obtain ⟨stop, walked, resolved⟩ := Except.bind_eq_ok_iff.mp resolved
      obtain ⟨stop', walked', rfl⟩ := walk_of_closed walked
      rw [resolve, walked']
      cases stop' with
      | arrived place' => exact resolved
      | linked folder names' => exact induction resolved

/-- Unless there are too many links, more of them may be followed. -/
theorem resolve_of_le {few many : Nat} (fewer : few ≤ many) :
    resolve root few here names = .error .tooManyLinks
      ∨ resolve root many here names = resolve root few here names := by
  induction few generalizing many here names with
  | zero => exact .inl rfl
  | succ few induction =>
      obtain ⟨many, rfl⟩ := Nat.exists_eq_add_of_lt fewer
      rw [resolve, resolve]
      cases walk root here names with
      | error error => exact .inr rfl
      | ok stop =>
          cases stop with
          | arrived place => exact .inr rfl
          | linked folder left => exact induction (Nat.le_of_succ_le_succ fewer)

/-- What a path leads to with so many walks. -/
def reach (root : Folder) (walks : Nat) (here names : List String) :
    Except FileError FolderEntry := do
  match root.entryAt? (← resolve root walks here names) with
  | some entry => return entry
  | none => throw .notFound

theorem reach_eq_ok_iff {walks : Nat} {entry : FolderEntry} :
    reach root walks here names = .ok entry ↔
      ∃ place : List String, resolve root walks here names = .ok place
        ∧ root.entryAt? place = some entry := by
  rw [reach, Except.bind_eq_ok_iff]
  refine exists_congr fun place => and_congr_right fun _ => ?_
  cases root.entryAt? place with
  | none => exact iff_of_false nofun nofun
  | some other =>
      constructor
      · rintro ⟨⟩
        rfl
      · rintro ⟨⟩
        rfl

theorem reach_append {walks : Nat} (reached : reach root walks here names = .ok (.folder entries)) :
    ∃ (place : List String) (left : Nat), left + 1 ≤ walks
      ∧ root.entryAt? place = some (.folder entries)
      ∧ ∀ rest : List String,
        reach root walks here (names ++ rest) = reach root (left + 1) place rest := by
  obtain ⟨place, resolved, there⟩ := reach_eq_ok_iff.mp reached
  obtain ⟨left, fewer, same⟩ := resolve_append resolved there
  exact ⟨place, left, fewer, there, fun rest => by rw [reach, same rest]; rfl⟩

theorem reach_of_closed {walks : Nat} {entry : FolderEntry}
    (reached : reach root walks here (names ++ [""]) = .ok entry) :
    reach root walks here names = .ok entry := by
  obtain ⟨place, resolved, there⟩ := reach_eq_ok_iff.mp reached
  exact reach_eq_ok_iff.mpr ⟨place, resolve_of_closed resolved, there⟩

theorem reach_of_le {few many : Nat} (fewer : few ≤ many) :
    reach root few here names = .error .tooManyLinks
      ∨ reach root many here names = reach root few here names := by
  rcases resolve_of_le fewer with tooMany | same
  · exact .inl (by rw [reach, tooMany]; rfl)
  · exact .inr (by rw [reach, same, reach])

/-! ## Paths as texts -/

variable {system : FileSystem} {path : String}

theorem lookUp_eq (filled : path ≠ "") :
    system.lookUp path =
      reach system.root (greatestLinks + 1) (origin system.working path) (namesOf path) := by
  rw [lookUp, if_neg filled]
  rfl

theorem ne_empty_of_lookUp {entry : FolderEntry} (found : system.lookUp path = .ok entry) :
    path ≠ "" := by
  rintro rfl
  cases found

theorem namesOf_slash (front back : String) :
    namesOf (front ++ "/" ++ back) = namesOf front ++ namesOf back := by
  have chars : (front ++ "/" ++ back).toList = front.toList ++ '/' :: back.toList := by simp
  rw [namesOf, chars, List.splitOn_append_cons_self, List.map_append]
  rfl

theorem namesOf_name {name : String} (isName : IsEntryName name) : namesOf name = [name] := by
  rw [namesOf, List.splitOn_eq_singleton isName.noSlash, List.map_singleton, String.ofList_toList]

theorem origin_append (filled : path ≠ "") (rest : String) :
    origin here (path ++ rest) = origin here path := by
  have chars : path.toList ≠ [] := fun none => filled (String.toList_eq_nil_iff.mp none)
  obtain ⟨first, others, same⟩ := List.exists_cons_of_ne_nil chars
  rw [origin, origin, String.toList_append, same]
  rfl

/-- A path is joined with names by a slash, which it may end with. -/
theorem exists_front (path : String) :
    ∃ front : String, (path = front ∨ path = front ++ "/")
      ∧ ∀ name : String, Manifest.joinPath path name = front ++ "/" ++ name := by
  by_cases ends : path.endsWith "/" = true
  · have slash := ends
    rw [String.endsWith_eq_endsWith_toSlice, String.Slice.endsWith_string_iff] at slash
    obtain ⟨front, whole⟩ := slash
    have same : path = String.ofList front ++ "/" := String.toList_injective (by
      rw [String.toList_append, String.toList_ofList]
      simpa using whole.symm)
    refine ⟨String.ofList front, .inr same, fun name => ?_⟩
    rw [Manifest.joinPath, if_pos ends, same]
  · exact ⟨path, .inl rfl, fun name => by rw [Manifest.joinPath, if_neg ends]⟩

theorem origin_joinPath (filled : path ≠ "") (name : String) :
    origin here (Manifest.joinPath path name) = origin here path := by
  rw [Manifest.joinPath]
  split
  · exact origin_append filled name
  · rw [String.append_assoc]
    exact origin_append filled _

theorem joinPath_ne_empty (path name : String) : Manifest.joinPath path name ≠ "" := by
  obtain ⟨front, -, joined⟩ := exists_front path
  rw [joined]
  simp

/-- The path that a link stands for in the folder at a path. -/
def linkedPath (path target : String) : String :=
  if target.toList.head? = some '/' then target else Manifest.joinPath path target

/-- A name is looked up in the folder to which a path leads. -/
theorem lookUp_joinPath (found : system.lookUp path = .ok (.folder entries)) :
    ∃ (place : List String) (left : Nat), left ≤ greatestLinks
      ∧ system.root.entryAt? place = some (.folder entries)
      ∧ ∀ name : String, system.lookUp (Manifest.joinPath path name) =
        reach system.root (left + 1) place (namesOf name) := by
  have filled := ne_empty_of_lookUp found
  rw [lookUp_eq filled] at found
  obtain ⟨front, whole, joined⟩ := exists_front path
  have reached : reach system.root (greatestLinks + 1) (origin system.working path) (namesOf front)
      = .ok (.folder entries) := by
    rcases whole with rfl | slash
    · exact found
    · have closed : namesOf path = namesOf front ++ [""] := by
        rw [slash, ← String.append_empty (s := front ++ "/"), namesOf_slash]
        rfl
      exact reach_of_closed (closed ▸ found)
  obtain ⟨place, left, fewer, there, same⟩ := reach_append reached
  refine ⟨place, left, Nat.le_of_succ_le_succ fewer, there, fun name => ?_⟩
  rw [lookUp_eq (joinPath_ne_empty path name), origin_joinPath filled, joined, namesOf_slash, same]

variable (found : system.lookUp path = .ok (.folder entries)) (wellNamed : entries.WellNamed)
  {name : String}

include found wellNamed

/-- The name of an entry that is no link leads to that entry. -/
theorem lookUp_entry {entry : FolderEntry} (member : (name, entry) ∈ entries)
    (noLink : ∀ target, entry ≠ .link target) :
    system.lookUp (Manifest.joinPath path name) = .ok entry := by
  obtain ⟨place, left, -, there, same⟩ := lookUp_joinPath found
  have isName := wellNamed.names name (List.mem_map_of_mem member)
  have present := (Folder.entryAt?_concat there name).trans
    (Folder.find?_of_mem wellNamed.distinct member)
  rw [same, namesOf_name isName]
  refine reach_eq_ok_iff.mpr ⟨place ++ [name], ?_, present⟩
  rw [resolve, walk_name isName present]
  cases entry with
  | link target => exact absurd rfl (noLink target)
  | _ => rfl

/-- The name of a link leads where its path leads, unless there are too many links on the way. -/
theorem lookUp_link {target : String} (member : (name, .link target) ∈ entries) :
    system.lookUp (Manifest.joinPath path name) = .error .tooManyLinks
      ∨ system.lookUp (Manifest.joinPath path name) = system.lookUp (linkedPath path target) := by
  obtain ⟨place, left, few, there, same⟩ := lookUp_joinPath found
  have isName := wellNamed.names name (List.mem_map_of_mem member)
  have present := (Folder.entryAt?_concat there name).trans
    (Folder.find?_of_mem wellNamed.distinct member)
  have followed : system.lookUp (Manifest.joinPath path name) =
      reach system.root left (origin place target) (namesOf target) := by
    rw [same, namesOf_name isName, reach, resolve, walk_name isName present]
    rfl
  rw [followed, linkedPath]
  split
  · next absolute =>
      have filled : target ≠ "" := by
        rintro rfl
        cases absolute
      rw [lookUp_eq filled, origin, if_pos absolute, origin, if_pos absolute]
      exact (reach_of_le (Nat.le_succ_of_le few)).imp_right Eq.symm
  · next relative =>
      rw [same, origin, if_neg relative]
      exact (reach_of_le (Nat.le_succ left)).imp_right Eq.symm

end FileSystem

end PoolOperator
