/-
  Paths without dots.

  Before a path is used, segments that are a dot are dropped, and one that is two dots takes the
  segment before it along; nothing is taken from before the first slash.
-/
import DocStore.Text.Split

namespace DocStore.Http

/-- Drops the segments that are one dot, and those that are two with the one before; the segments
    kept so far come in reverse. -/
def dropDots : List (List Char) → List (List Char) → List (List Char)
  | kept, [] => kept.reverse
  | kept, segment :: rest =>
    if segment = ['.'] then dropDots kept rest
    else if segment = ['.', '.'] then
      dropDots (if kept = [[]] then kept else kept.tail) rest
    else dropDots (segment :: kept) rest

/-- A path without segments that are dots. -/
def normalizePath (path : List Char) : List Char :=
  ['/'].intercalate (dropDots [] (Text.splitAt '/' path))

example : normalizePath "/a/./b/../c".toList = "/a/c".toList := by decide +kernel
example : normalizePath "/d/..".toList = [] := by decide +kernel

end DocStore.Http
