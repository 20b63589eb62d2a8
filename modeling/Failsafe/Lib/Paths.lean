import Mathlib.Data.List.Basic

/-!
Paths as bytes, under the grammar of Unix and that of Windows: prefixes, roots, components,
and what pushing a part onto a path makes of it.
-/

namespace Failsafe.Lib

inductive Platform where
  | unix
  | windows
deriving DecidableEq, Repr

abbrev PathBuf := List UInt8

namespace Paths

abbrev dot : UInt8 := 46
abbrev slash : UInt8 := 47
abbrev colon : UInt8 := 58
abbrev question : UInt8 := 63
abbrev backslash : UInt8 := 92

def isSep : Platform → UInt8 → Bool
  | .unix, byte => byte = slash
  | .windows, byte => byte = slash || byte = backslash

def mainSep : Platform → UInt8
  | .unix => slash
  | .windows => backslash

/-- The prefixes of a Windows path, as they are parsed. -/
inductive Prefix where
  | verbatim (name : List UInt8)
  | verbatimUnc (server share : List UInt8)
  | verbatimDisk (drive : UInt8)
  | deviceNs (device : List UInt8)
  | unc (server share : List UInt8)
  | disk (drive : UInt8)
deriving DecidableEq, Repr

namespace Prefix

def shareLen (share : List UInt8) : Nat :=
  if share = [] then 0 else 1 + share.length

def len : Prefix → Nat
  | verbatim name => 4 + name.length
  | verbatimUnc server share => 8 + server.length + shareLen share
  | verbatimDisk _ => 6
  | deviceNs device => 4 + device.length
  | unc server share => 2 + server.length + shareLen share
  | disk _ => 2

def isVerbatim : Prefix → Bool
  | verbatim _ | verbatimUnc _ _ | verbatimDisk _ => true
  | _ => false

def isDrive : Prefix → Bool
  | disk _ => true
  | _ => false

def hasImplicitRoot (pre : Prefix) : Bool :=
  !pre.isDrive

end Prefix

/-- The bytes up to the next separator, and those after it. -/
def nextComponent (sep : UInt8 → Bool) (path : List UInt8) : List UInt8 × List UInt8 :=
  (path.takeWhile (!sep ·), (path.dropWhile (!sep ·)).tail)

def isVerbatimSep (byte : UInt8) : Bool :=
  byte = backslash

def isAsciiAlphabetic (byte : UInt8) : Bool :=
  (65 ≤ byte && byte ≤ 90) || (97 ≤ byte && byte ≤ 122)

def toAsciiUppercase (byte : UInt8) : UInt8 :=
  if 97 ≤ byte && byte ≤ 122 then byte - 32 else byte

def parseDrive : List UInt8 → Option UInt8
  | drive :: second :: _ =>
      if isAsciiAlphabetic drive && second = colon then some (toAsciiUppercase drive) else none
  | _ => none

def parseDriveExact (path : List UInt8) : Option UInt8 :=
  if path[2]?.all (isSep .windows) then parseDrive path else none

/-- `PrefixParser::strip_prefix`, which takes a slash for a backslash. -/
def stripPattern : List UInt8 → List UInt8 → Option (List UInt8)
  | [], path => some path
  | _ :: _, [] => none
  | byte :: pattern, first :: path =>
      if (if first = slash then backslash else first) = byte then stripPattern pattern path
      else none

/-- The prefix of what follows two backslashes, a question mark and a third backslash. -/
def parseVerbatim (parser : List UInt8) : Prefix :=
  match stripPattern [85, 78, 67, backslash] parser with
  | some path =>
      let (server, path) := nextComponent isVerbatimSep path
      .verbatimUnc server (nextComponent isVerbatimSep path).1
  | none =>
      -- in verbatim paths only an exact drive prefix counts
      match parseDriveExact parser with
      | some drive => .verbatimDisk drive
      | none => .verbatim (nextComponent isVerbatimSep parser).1

/-- The prefix of what follows any other two separators. -/
def parseNetwork (parser : List UInt8) : Option Prefix :=
  match stripPattern [dot, backslash] parser with
  | some path => some (.deviceNs (nextComponent (isSep .windows) path).1)
  | none =>
      let (server, path) := nextComponent (isSep .windows) parser
      let share := (nextComponent (isSep .windows) path).1
      if server ≠ [] ∧ share ≠ [] then some (.unc server share) else none

def parsePrefix : Platform → PathBuf → Option Prefix
  | .unix, _ => none
  | .windows, path =>
      match stripPattern [backslash, backslash] path with
      | none => (parseDrive path).map .disk
      | some parser =>
          match stripPattern [question, backslash] parser with
          | some verbatim =>
              -- the separators of a verbatim prefix are backslashes
              if slash ∉ path.take 4 then some (parseVerbatim verbatim)
              else parseNetwork parser
          | none => parseNetwork parser

inductive Component where
  | prefixed (pre : Prefix)
  | rootDir
  | curDir
  | parentDir
  | normal (name : List UInt8)
deriving DecidableEq, Repr

variable (platform : Platform) (path : PathBuf)

def prefixLen : Nat :=
  ((parsePrefix platform path).map Prefix.len).getD 0

def prefixVerbatim : Bool :=
  (parsePrefix platform path).any Prefix.isVerbatim

/-- What follows the prefix. -/
def afterPrefix : List UInt8 :=
  path.drop (prefixLen platform path)

def hasPhysicalRoot : Bool :=
  (afterPrefix platform path).head?.any (isSep platform)

def hasRoot : Bool :=
  hasPhysicalRoot platform path || (parsePrefix platform path).any Prefix.hasImplicitRoot

def isAbsolute : Bool :=
  hasRoot platform path && (platform = .unix || (parsePrefix platform path).isSome)

def isSepByte (byte : UInt8) : Bool :=
  if prefixVerbatim platform path then isVerbatimSep byte else isSep platform byte

def includeCurDir : Bool :=
  !hasRoot platform path &&
    match afterPrefix platform path with
    | [first] => first = dot
    | first :: second :: _ => first = dot && isSepByte platform path second
    | [] => false

def parseSingleComponent (isVerbatim : Bool) (comp : List UInt8) : Option Component :=
  if comp = [dot] then if isVerbatim then some .curDir else none
  else if comp = [dot, dot] then some .parentDir
  else if comp = [] then none
  else some (.normal comp)

/-- The components between separators. -/
def segments (sep : UInt8 → Bool) (isVerbatim : Bool) (body : List UInt8) : List Component :=
  (body.splitOnP sep).filterMap (parseSingleComponent isVerbatim)

/-- `Path::components`: the prefix, the root or a leading `.`, and the body. -/
def components : List Component :=
  let parsed := parsePrefix platform path
  let after := afterPrefix platform path
  let physical := hasPhysicalRoot platform path
  (parsed.map .prefixed).toList ++
    (if physical then [.rootDir]
    else
      match parsed with
      | some pre => if pre.hasImplicitRoot && !pre.isVerbatim then [.rootDir] else []
      | none => if includeCurDir platform path then [.curDir] else []) ++
    segments (isSepByte platform path) (prefixVerbatim platform path)
      (if physical then after.tail else after)

/-- What a component of the pushed part makes of those of a verbatim path. -/
def pushVerbatim (buf : List Component) : Component → List Component
  | .rootDir => buf.take 1 ++ [.rootDir]
  | .curDir => buf
  | .parentDir =>
      match buf.getLast? with
      | some (.normal _) => buf.dropLast
      | _ => buf
  | comp => buf ++ [comp]

/-- `Component::as_os_str`, given the bytes of the prefix. -/
def Component.asOsStr (raw : List UInt8) : Component → List UInt8
  | .prefixed _ => raw
  | .rootDir => [mainSep platform]
  | .curDir => [dot]
  | .parentDir => [dot, dot]
  | .normal name => name

/-- The loop that writes components back into a path. -/
def render (raw : List UInt8) : Bool → List Component → List UInt8
  | _, [] => []
  | needSep, comp :: rest =>
      (if needSep && comp ≠ .rootDir then [mainSep platform] else []) ++
        comp.asOsStr platform raw ++
        render raw
          (match comp with
          | .rootDir => false
          | .prefixed pre => !pre.isDrive && decide (0 < pre.len)
          | _ => true)
          rest

/-- Whether `push` puts a separator before a relative part. -/
def needSep : Bool :=
  path.getLast?.any (!isSep platform ·) &&
    !(parsePrefix platform path).any fun pre => pre.isDrive && pre.len = path.length

/-- `PathBuf::push`. -/
def push (part : PathBuf) : PathBuf :=
  if isAbsolute platform part || (parsePrefix platform part).isSome then part
  else if prefixVerbatim platform path && part ≠ [] then
    render platform (path.take (prefixLen platform path)) false
      ((components platform part).foldl pushVerbatim (components platform path))
  else if hasRoot platform part then path.take (prefixLen platform path) ++ part
  else if needSep platform path then path ++ mainSep platform :: part
  else path ++ part

/-- A path without prefix or root: pushing it replaces nothing. -/
def isRelative (part : PathBuf) : Bool :=
  (parsePrefix platform part).isNone && !hasRoot platform part

/-- The beginning of a network path that still lacks its share. -/
def unfinishedUnc : Platform → PathBuf → Bool
  | .unix, _ => false
  | .windows, path =>
      (stripPattern [backslash, backslash] path).any fun parser =>
        !parser.head?.any (isSep .windows) && (nextComponent (isSep .windows) parser).2 = []

/-- A directory: what is pushed onto it becomes no part of its prefix. -/
def isSettled : Bool :=
  match parsePrefix platform path with
  | none => !unfinishedUnc platform path
  | some (.disk _) | some (.unc _ _) => true
  | some (.deviceNs device) => device ≠ [] || afterPrefix platform path ≠ []
  | some (.verbatimUnc _ share) => share ≠ [] && afterPrefix platform path ≠ []
  | some (.verbatim _) | some (.verbatimDisk _) => afterPrefix platform path ≠ []

end Paths

end Failsafe.Lib
