import AgentBigBrain.Js.Platform

/-!
# Paths of either platform

A path is read with Windows rules when it looks like a Windows path, whatever the
platform the program runs on.
-/
namespace AgentBigBrain.Core

open AgentBigBrain.Js

/-- `/^[A-Za-z]:[\\/]/`. -/
def isWindowsAbsolutePath : List Char → Bool
  | c :: ':' :: d :: _ => c.isAlpha && (d == '\\' || d == '/')
  | _ => false

/-- `/^\\\\[^\\]+\\[^\\]+/`. -/
def isWindowsUncPath : List Char → Bool
  | '\\' :: '\\' :: cs =>
      let server := cs.takeWhile (· ≠ '\\')
      let share := ((cs.drop server.length).drop 1).takeWhile (· ≠ '\\')
      !server.isEmpty && !share.isEmpty
  | _ => false

def usesWindowsPathSemantics (candidatePath : String) : Bool :=
  isWindowsAbsolutePath candidatePath.toList || isWindowsUncPath candidatePath.toList ||
    (!startsWith candidatePath "/" && candidatePath.toList.contains '\\')

variable (platform : Platform)

def selectPathModule (candidatePath : String) : PathModule :=
  if usesWindowsPathSemantics candidatePath then platform.win32 else platform.posix

def isSeparator (c : Char) : Bool :=
  c == '\\' || c == '/'

def trimTrailingSeparators (normalizedPath : String) (pathModule : PathModule) : String :=
  if normalizedPath = pathModule.root normalizedPath then normalizedPath
  else String.ofList (normalizedPath.toList.reverse.dropWhile isSeparator).reverse

/-- `text.replace(/\\/g, "/")`. -/
def forwardSlashes (text : String) : String :=
  String.ofList (text.toList.map fun c => if c = '\\' then '/' else c)

def normalizeCrossPlatformPath (candidatePath : String) : String :=
  let trimmed := trim candidatePath
  if trimmed = "" then ""
  else if usesWindowsPathSemantics trimmed then
    trimTrailingSeparators (platform.win32.normalize trimmed) platform.win32
  else
    trimTrailingSeparators (platform.posix.normalize (forwardSlashes trimmed)) platform.posix

def basenameCrossPlatformPath (candidatePath : String) : String :=
  let normalized := normalizeCrossPlatformPath platform candidatePath
  if normalized = "" then "" else (selectPathModule platform normalized).basename normalized

def dirnameCrossPlatformPath (candidatePath : String) : String :=
  let normalized := normalizeCrossPlatformPath platform candidatePath
  if normalized = "" then "" else (selectPathModule platform normalized).dirname normalized

/-- `/^\/[A-Za-z]:\//`. -/
def isWindowsDriveFileUrlPath : List Char → Bool
  | '/' :: c :: ':' :: '/' :: _ => c.isAlpha
  | _ => false

def localFileUrlToAbsolutePath (fileUrl : String) : Option String :=
  match platform.parseUrl fileUrl with
  | none => none
  | some parsedUrl =>
      let normalizedHostname := platform.toLowerCase (trim parsedUrl.hostname)
      if parsedUrl.protocol ≠ "file:" then none
      else if normalizedHostname ≠ "" ∧ normalizedHostname ≠ "localhost" then none
      else if isWindowsDriveFileUrlPath parsedUrl.pathname.toList then
        (platform.decodeURIComponent (String.ofList (parsedUrl.pathname.toList.drop 1))).map
          fun decoded => String.ofList (decoded.toList.map fun c => if c = '/' then '\\' else c)
      else
        platform.fileURLToPath parsedUrl

end AgentBigBrain.Core
