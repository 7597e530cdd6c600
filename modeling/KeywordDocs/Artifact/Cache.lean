import KeywordDocs.Action
import KeywordDocs.Failure
import KeywordDocs.Text.Quoted

/-!
# The cache of libdoc files

A cache directory holds one libdoc per key. A libdoc can be reused as long as the source of its
library has not changed after it was written. A source that is not known, or can not be looked at,
has the time of the epoch.
-/

namespace KeywordDocs

/-- What is found in the cache under a key. -/
inductive CacheCheck where
  /-- A libdoc that is as new as the source of its library. -/
  | hit (path : Path)
  /-- A libdoc that is older than the source. -/
  | stale
  /-- No libdoc. -/
  | missing
  deriving DecidableEq, Repr

/-- The time a path was last changed, the epoch where that can not be told. -/
def FileSystem.changed (fs : FileSystem) (p : Option Path) : Time :=
  (p.bind fs.modified?).getD Time.epoch

namespace CacheCheck

/-- Looks for the libdoc of a key. -/
def look (fs : FileSystem) (cacheDir : Path) (key : String) (source : Option Path) : CacheCheck :=
  let path := artifactPath cacheDir key
  if ¬ fs.pathExists path then .missing
  else if fs.changed (some path) < fs.changed source then .stale
  else .hit path

/-- An optional path in a log line. -/
def showSource : Option Path → String
  | none => "None"
  | some p => "Some(" ++ Text.quotedBytes p.bytes ++ ")"

/-- Looks for the libdoc of a key and logs when it is too old. -/
def run {σ : Type} (cacheDir : Path) (key : String) (source : Option Path) :
    Action σ CacheCheck := do
  let check := look (← Action.files) cacheDir key source
  if check = .stale then
    Action.log ⟨.debug, .cache, "libdoc older than library source",
      [("cache_key", .quoted key), ("source", .plain (showSource source))]⟩
  return check

end CacheCheck

/-- Makes the cache directory, with its parents. -/
def makeCacheDir {σ : Type} (cacheDir : Path) : Action σ (Except Failure Unit) := do
  let made ← Action.updateFiles fun now fs => fs.makeDirectories now cacheDir
  return made.mapError fun e => ⟨.createCacheDir cacheDir, [.os e]⟩

end KeywordDocs
