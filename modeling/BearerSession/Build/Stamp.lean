import BearerSession.History.Describe

/-!
# The version stamp

The command line is stamped at build time with a version taken from the repository it is
built in: the description of the head (`Repository.describe`), trimmed of white space, without
one leading `v`. Outside a repository, in one with no commit, or when the trimmed description
is empty, the version is the package version.

The build step prints three directives: to run again when the head or a ref changes, and the
version as the compile-time variable `AUTHWAVE_VERSION`.
-/

namespace BearerSession.Build

open History

/-- The package version, used when the repository gives none. -/
def packageVersion : String := "0.1.0"

/-- Whether a character is white space: the characters of the Unicode `White_Space` property. -/
def isSpace (c : Char) : Bool :=
  let n := c.toNat
  (0x09 ≤ n && n ≤ 0x0D) || n == 0x20 || n == 0x85 || n == 0xA0 || n == 0x1680 ||
    (0x2000 ≤ n && n ≤ 0x200A) || n == 0x2028 || n == 0x2029 || n == 0x202F ||
    n == 0x205F || n == 0x3000

/-- A text without white space at either end. -/
def trimSpace (text : String) : String :=
  String.ofList ((text.toList.dropWhile isSpace).reverse.dropWhile isSpace).reverse

/-- The version a description gives, if it gives one. -/
def versionOfDescription (description : String) : Option String :=
  let text := trimSpace description
  if text.isEmpty then none
  else some (if text.startsWith "v" then (text.drop 1).toString else text)

/-- The version of a build in a repository, or outside one. -/
def versionOf (repo : Option Repository) : String :=
  ((repo.bind Repository.describe).bind versionOfDescription).getD packageVersion

/-- The directives the build step prints, each on its own line. -/
def directives (repo : Option Repository) : String :=
  "cargo:rerun-if-changed=.git/HEAD\ncargo:rerun-if-changed=.git/refs/\n" ++
    "cargo:rustc-env=AUTHWAVE_VERSION=" ++ versionOf repo ++ "\n"

end BearerSession.Build
