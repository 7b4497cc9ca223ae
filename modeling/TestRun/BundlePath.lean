/-! Paths of bundles: the last name of a path, slashes at its end aside, and the name of an app, which is that one
without its ending. -/

set_option autoImplicit false

namespace TestRun.BundlePath

def afterSlash (path : List Char) : List Char := (path.reverse.takeWhile (· != '/')).reverse

def withoutSlashes (path : List Char) : List Char := (path.reverse.dropWhile (· = '/')).reverse

def withoutEnding (ending name : List Char) : List Char :=
  if ending.isSuffixOf name then name.take (name.length - ending.length) else name

def baseName (path : String) : String := String.ofList (afterSlash (withoutSlashes path.toList))

def appName (path : String) : String :=
  String.ofList (withoutEnding ".app".toList (baseName path).toList)

theorem afterSlash_no_slash (path : List Char) : '/' ∉ afterSlash path := by
  intro h
  have inner := List.mem_reverse.1 h
  have := List.all_takeWhile (p := (· != '/')) (l := path.reverse)
  have := List.all_eq_true.1 this _ inner
  simp at this

theorem withoutEnding_append (ending name : List Char) : withoutEnding ending (name ++ ending) = name := by
  simp [withoutEnding]

end TestRun.BundlePath
