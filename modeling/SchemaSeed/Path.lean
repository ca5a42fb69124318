import SchemaSeed.Text.Basic

/-! Paths in their plain form: no empty component, no component that is a single
point.  Paths beyond the limits of file systems cannot be looked up at all. -/

namespace SchemaSeed

namespace Path

def components (path : Text) : List Text :=
  path.foldr (fun character parts =>
    match parts with
    | current :: rest =>
        if character = '/' then [] :: current :: rest else (character :: current) :: rest
    | [] => [[character]]) [[]]

/-- A path that starts with exactly two slashes keeps both. -/
def root (path : Text) : Text :=
  let slashes := (path.takeWhile (· == '/')).length
  if slashes = 0 then [] else if slashes = 2 then ['/', '/'] else ['/']

def normalize (path : Text) : Text :=
  let kept := (components path).filter fun part => !part.isEmpty && part != ['.']
  let normal := root path ++ Text.join ['/'] kept
  if normal.isEmpty then ['.'] else normal

/-! Lengths count bytes of UTF-8. -/

def byteCount (text : Text) : Nat :=
  (text.map Char.utf8Size).foldr (· + ·) 0

def longestPath : Nat := 4095

def longestComponent : Nat := 255

def holdsNull (path : Text) : Bool :=
  path.any (· == '\x00')

/-- Whether a path to nothing is refused for its length: it is too long as a whole, or
the component at which the search ends is. -/
def isTooLong (path : Text) : Bool :=
  let first := (components path).find? fun part => !part.isEmpty && part != "..".toList
  !holdsNull path &&
    (longestPath < byteCount path || first.any fun part => longestComponent < byteCount part)

end Path

end SchemaSeed
