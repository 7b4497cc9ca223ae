/-! Cutting a text in two at a mark. -/

set_option autoImplicit false

namespace TestRun.Text

def splitAtMark (isMark : Char → Bool) (text : List Char) : List Char × Option (List Char) :=
  (text.takeWhile (!isMark ·), match text.dropWhile (!isMark ·) with
    | [] => none
    | _ :: rest => some rest)

end TestRun.Text
