import Mathlib.Data.List.TakeWhile
import TestRun.BundlePath

/-! Names in paths. -/

set_option autoImplicit false

namespace TestRun.BundlePath

def Slashes (s : String) : Prop := ∀ c ∈ s.toList, c = '/'

def Folder (s : String) : Prop := ∀ c ∈ s.toList.getLast?, c = '/'

structure Cut (path folder name slashes : String) : Prop where
  parts : path = folder ++ name ++ slashes
  folder : Folder folder
  plain : '/' ∉ name.toList
  slashes : Slashes slashes
  empty : name = "" ↔ Slashes path

theorem without_slashes_append (path slashes : List Char) (all : ∀ c ∈ slashes, c = '/') :
    withoutSlashes (path ++ slashes) = withoutSlashes path := by
  have passed : ∀ c ∈ slashes.reverse, decide (c = '/') = true := by simpa using all
  rw [withoutSlashes, List.reverse_append, List.dropWhile_append_of_pos passed, withoutSlashes]

theorem without_slashes_split (path : List Char) :
    ∃ slashes, path = withoutSlashes path ++ slashes ∧ ∀ c ∈ slashes, c = '/' := by
  refine ⟨(path.reverse.takeWhile (· = '/')).reverse, ?_, fun c member => ?_⟩
  · rw [withoutSlashes, ← List.reverse_append, List.takeWhile_append_dropWhile, List.reverse_reverse]
  · simpa using List.mem_takeWhile_imp (List.mem_reverse.mp member)

theorem without_slashes_nil_iff (path : List Char) : withoutSlashes path = [] ↔ ∀ c ∈ path, c = '/' := by
  simp [withoutSlashes]

theorem without_slashes_ends (path rest : List Char) (c : Char) (ends : withoutSlashes path = rest ++ [c]) :
    c ≠ '/' := by
  have turned : path.reverse.dropWhile (· = '/') = c :: rest.reverse := by
    simpa [withoutSlashes] using congrArg List.reverse ends
  have stopped := List.head?_dropWhile_not (fun c => decide (c = '/')) path.reverse
  simpa [turned] using stopped

theorem without_slashes_name (front name : List Char) (plain : '/' ∉ name) (nonempty : name ≠ []) :
    withoutSlashes (front ++ name) = front ++ name := by
  obtain ⟨rest, c, rfl⟩ := (List.eq_nil_or_concat name).resolve_left nonempty
  have stops : c ≠ '/' := by
    rintro rfl
    simp at plain
  simp [withoutSlashes, stops]

theorem after_slash_split (path : List Char) :
    ∃ folder, path = folder ++ afterSlash path ∧ ∀ c ∈ folder.getLast?, c = '/' := by
  refine ⟨(path.reverse.dropWhile (· != '/')).reverse, ?_, fun c last => ?_⟩
  · rw [afterSlash, ← List.reverse_append, List.takeWhile_append_dropWhile, List.reverse_reverse]
  · rw [List.getLast?_reverse] at last
    have stopped := List.head?_dropWhile_not (· != '/') path.reverse
    rw [last] at stopped
    simpa using stopped

theorem after_slash_folder (folder name : List Char) (ends : ∀ c ∈ folder.getLast?, c = '/') (plain : '/' ∉ name) :
    afterSlash (folder ++ name) = name := by
  have passed : ∀ c ∈ name.reverse, (c != '/') = true := by
    intro c member
    rw [bne_iff_ne]
    rintro rfl
    exact plain (List.mem_reverse.mp member)
  have stops : folder.reverse.takeWhile (· != '/') = [] := by
    rw [← List.head?_reverse] at ends
    cases turned : folder.reverse with
    | nil => rfl
    | cons c outer =>
        obtain rfl : c = '/' := ends c (by rw [turned]; rfl)
        rfl
  rw [afterSlash, List.reverse_append, List.takeWhile_append_of_pos passed, stops, List.append_nil,
    List.reverse_reverse]

theorem base_name_toList (path : String) : (baseName path).toList = afterSlash (withoutSlashes path.toList) :=
  String.toList_ofList

theorem base_name_no_slash (path : String) : '/' ∉ (baseName path).toList := by
  rw [base_name_toList]
  exact afterSlash_no_slash _

theorem base_name_slashes (path slashes : String) (all : Slashes slashes) :
    baseName (path ++ slashes) = baseName path := by
  rw [baseName, String.toList_append, without_slashes_append _ _ all, baseName]

theorem base_name_empty_iff (path : String) : baseName path = "" ↔ Slashes path := by
  rw [← String.toList_eq_nil_iff, base_name_toList, Slashes, ← without_slashes_nil_iff]
  constructor
  · intro nothing
    obtain ⟨folder, whole, ends⟩ := after_slash_split (withoutSlashes path.toList)
    rw [nothing, List.append_nil] at whole
    -- What is left when the slashes are off would end in a slash.
    rcases List.eq_nil_or_concat folder with empty | ⟨rest, c, rfl⟩
    · rw [whole, empty]
    · exact absurd (ends c (by simp)) (without_slashes_ends path.toList rest c (by rw [whole, List.concat_eq_append]))
  · intro empty
    rw [empty]
    rfl

theorem base_name_placed (folder name slashes : String) (ends : Folder folder) (plain : '/' ∉ name.toList)
    (nonempty : name ≠ "") (all : Slashes slashes) : baseName (folder ++ name ++ slashes) = name := by
  have kept : name.toList ≠ [] := fun empty => nonempty (String.toList_eq_nil_iff.mp empty)
  rw [base_name_slashes _ _ all]
  apply String.ext
  rw [base_name_toList, String.toList_append, without_slashes_name _ _ plain kept,
    after_slash_folder _ _ ends plain]

theorem base_name_cut (path : String) : ∃ folder slashes, Cut path folder (baseName path) slashes := by
  obtain ⟨slashes, whole, all⟩ := without_slashes_split path.toList
  obtain ⟨folder, front, ends⟩ := after_slash_split (withoutSlashes path.toList)
  refine ⟨String.ofList folder, String.ofList slashes, ?_, ?_, ?_, ?_, base_name_empty_iff path⟩
  · apply String.ext
    rw [String.toList_append, String.toList_append, base_name_toList, String.toList_ofList, String.toList_ofList,
      ← front, ← whole]
  · rwa [Folder, String.toList_ofList]
  · exact base_name_no_slash path
  · rwa [Slashes, String.toList_ofList]

theorem cut_name (path folder name slashes : String) (cut : Cut path folder name slashes) : name = baseName path := by
  by_cases empty : name = ""
  · rw [empty]
    exact ((base_name_empty_iff path).mpr (cut.empty.mp empty)).symm
  · rw [cut.parts, base_name_placed folder name slashes cut.folder cut.plain empty cut.slashes]

theorem base_name_plain (name : String) (plain : '/' ∉ name.toList) : baseName name = name := by
  by_cases empty : name = ""
  · rw [empty]
    rfl
  · have placed := base_name_placed "" name "" (by simp [Folder]) plain empty (by simp [Slashes])
    rwa [String.empty_append, String.append_empty] at placed

theorem app_name_ended (path name : String) (base : baseName path = name ++ ".app") : appName path = name := by
  rw [appName, base, String.toList_append, withoutEnding_append, String.ofList_toList]

theorem app_name_plain (path : String) (other : ¬ ∃ name, baseName path = name ++ ".app") :
    appName path = baseName path := by
  have kept : ¬ ".app".toList.isSuffixOf (baseName path).toList = true := by
    rw [List.isSuffixOf_iff_suffix]
    rintro ⟨name, parts⟩
    refine other ⟨String.ofList name, String.ext ?_⟩
    rw [String.toList_append, String.toList_ofList, parts]
  rw [appName, withoutEnding, if_neg kept, String.ofList_toList]

theorem base_name_is_the_last_name (path : String) :
    (∃ folder slashes, Cut path folder (baseName path) slashes) ∧
      (∀ folder name slashes, Cut path folder name slashes → name = baseName path) ∧
      (∀ slashes, Slashes slashes → baseName (path ++ slashes) = baseName path) ∧
      baseName (baseName path) = baseName path ∧
      ∀ folder name slashes, Folder folder → '/' ∉ name.toList → Slashes slashes →
        appName (folder ++ name ++ ".app" ++ slashes) = name ∧
        (name ≠ "" → (¬ ∃ front, name = front ++ ".app") → appName (folder ++ name ++ slashes) = name) := by
  refine ⟨base_name_cut path, cut_name path, base_name_slashes path, base_name_plain _ (base_name_no_slash path), ?_⟩
  intro folder name slashes ends plain all
  constructor
  · have ended : '/' ∉ (name ++ ".app").toList := by simp [plain]
    have nonempty : name ++ ".app" ≠ "" := by simp
    have base := base_name_placed folder (name ++ ".app") slashes ends ended nonempty all
    exact app_name_ended _ name (by rwa [← String.append_assoc] at base)
  · intro nonempty other
    have base := base_name_placed folder name slashes ends plain nonempty all
    rw [app_name_plain _ (by rwa [base]), base]

theorem doubled_ending_falls_off_once :
    baseName "Build//Shop.app.app//" = "Shop.app.app" ∧ appName "Build//Shop.app.app//" = "Shop.app" ∧
      appName "Build//.app" = "" ∧ appName "Build//Shop.apps//" = "Shop.apps" := by
  obtain ⟨-, unique, -, -, apps⟩ := base_name_is_the_last_name "Build//Shop.app.app//"
  have folder : Folder "Build//" := by simp [Folder]
  have slashes : Slashes "//" := by simp [Slashes]
  have cut : Cut "Build//Shop.app.app//" "Build//" "Shop.app.app" "//" :=
    ⟨by decide, folder, by decide, slashes, by simp [Slashes]⟩
  have doubled := (apps "Build//" "Shop.app" "//" folder (by decide) slashes).1
  have bare := (apps "Build//" "" "" folder (by decide) (by simp [Slashes])).1
  have plain := (apps "Build//" "Shop.apps" "//" folder (by decide) slashes).2 (by decide) ?_
  · exact ⟨(unique _ _ _ cut).symm, doubled, bare, plain⟩
  · rintro ⟨front, same⟩
    have ends := congrArg (fun s => s.toList.getLast?) same
    simp at ends

end TestRun.BundlePath
