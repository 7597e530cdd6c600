import KeywordDocs.Action
import KeywordDocs.Failure

/-!
# Libdoc generators

A generator writes the libdoc of a library into the cache directory and gives its path. How it
does so is its own business: it may change the world in any way and log events.
-/

namespace KeywordDocs

/-- Writes the libdoc of a reference under a key into a directory and gives the path of the file. -/
abbrev Generator (σ : Type) : Type :=
  (reference : Reference) → (cacheKey : String) → (cacheDir : Path) →
    ExceptT Failure (Action σ) Path

end KeywordDocs
