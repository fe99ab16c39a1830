import RegistryAuth.Text.Split

/-! # Glob patterns

A resource name and a pattern are sequences of segments between slashes. The
segment `**` stands for any number of segments, a `*` inside another segment
for any text without a slash, and all else for itself.
-/

namespace RegistryAuth.Glob

/-- Whether some ending of a sequence, the whole and the empty one included, satisfies `p`. -/
def anySuffix {α : Type} (p : List α → Bool) : List α → Bool
  | [] => p []
  | a :: rest => p (a :: rest) || anySuffix p rest

def matchesSegment (pattern text : List Char) : Bool :=
  match pattern with
  | [] => text.isEmpty
  | '*' :: rest => anySuffix (matchesSegment rest) text
  | c :: rest =>
    match text with
    | [] => false
    | t :: others => c == t && matchesSegment rest others

def matchesSegments (pattern names : List (List Char)) : Bool :=
  match pattern with
  | [] => names.isEmpty
  | segment :: rest =>
    if segment = ['*', '*'] then anySuffix (matchesSegments rest) names
    else match names with
      | [] => false
      | name :: others => matchesSegment segment name && matchesSegments rest others

def matchesName (pattern name : String) : Bool :=
  matchesSegments (Text.splitOn '/' pattern.toList) (Text.splitOn '/' name.toList)

end RegistryAuth.Glob
