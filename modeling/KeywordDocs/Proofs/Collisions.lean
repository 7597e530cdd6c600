import KeywordDocs.Proofs.Parents

/-!
# References with one key

The module that is named by the key of a file has that key, and it is the only one (`shared_key_iff`).

The key of a file is its stem, a dash and a fingerprint of its path. A stem can hold dashes and digits of
its own, but a fingerprint has 16 digits whatever the path is, so the key can be taken apart from behind
(`cacheKey_eq_iff`). The digits write the first eight bytes of the digest and nothing is lost in writing
them (`Sha256.hex_injective`). So two files have one libdoc only if they have one stem and the digests of
their paths begin with the same 64 bits.
-/

namespace KeywordDocs

/-! ### Digits of a digest -/

namespace Sha256

theorem toList_hex_cons (b : UInt8) (bs : Bytes) :
    (hex (b :: bs)).toList =
      Nat.digitChar (b.toNat / 16) :: Nat.digitChar (b.toNat % 16) :: (hex bs).toList := by
  simp [hex]

/-- The first digits of a text are the digits of its first bytes. -/
theorem take_hex (bs : Bytes) (n : Nat) : (hex bs).toList.take (2 * n) = (hex (bs.take n)).toList := by
  induction bs generalizing n with
  | nil => simp [hex]
  | cons b bs ih =>
    cases n with
    | zero => rfl
    | succ n =>
      rw [Nat.mul_succ, toList_hex_cons, List.take_succ_cons, List.take_succ_cons, ih,
        List.take_succ_cons, toList_hex_cons]

theorem hex_injective : Function.Injective hex := by
  intro bs bs' h
  have htoList : (hex bs).toList = (hex bs').toList := congrArg String.toList h
  clear h
  induction bs generalizing bs' with
  | nil =>
    cases bs' with
    | nil => rfl
    | cons b' bs' =>
      rw [toList_hex_cons] at htoList
      cases htoList
  | cons b bs ih =>
    cases bs' with
    | nil =>
      rw [toList_hex_cons] at htoList
      cases htoList
    | cons b' bs' =>
      rw [toList_hex_cons, toList_hex_cons, List.cons.injEq, List.cons.injEq] at htoList
      obtain ⟨hhigh, hlow, hrest⟩ := htoList
      have hdigit : ∀ d < 16, ∀ e < 16, Nat.digitChar d = Nat.digitChar e → d = e := by decide
      have hb := b.toNat_lt
      have hb' := b'.toNat_lt
      have hdiv := hdigit _ (by omega) _ (by omega) hhigh
      have hmod := hdigit _ (by omega) _ (by omega) hlow
      have hbyte : b = b' := UInt8.toNat_inj.mp (by omega)
      rw [hbyte, ih hrest]

end Sha256

/-! ### Paths of libdocs -/

section Paths

variable {key key' : String}

theorem artifactName_eq_iff :
    Utf8.encode (key ++ ".xml") = Utf8.encode (key' ++ ".xml") ↔ key = key' := by
  rw [Utf8.encode_append, Utf8.encode_append, List.append_left_inj, Utf8.encode_injective.eq_iff]

/-- Keys without a separator that differ have paths that differ in their last component. -/
theorem components_artifactPath_eq_iff (h : '/' ∉ key.toList) (h' : '/' ∉ key'.toList)
    (cacheDir : Path) :
    (artifactPath cacheDir key).components = (artifactPath cacheDir key').components ↔ key = key' := by
  rw [components_artifactPath_of_notMem h, components_artifactPath_of_notMem h', List.append_right_inj,
    List.singleton_inj, PathText.Component.normal.injEq, artifactName_eq_iff]

/-- A key has the path of one without a separator if it ends in that and its folder leads nowhere. -/
theorem components_artifactPath_eq_iff_leaf (h : '/' ∉ key.toList) (cacheDir : Path) :
    (artifactPath cacheDir key).components = (artifactPath cacheDir key').components ↔
      (Path.ofString key').leaf = Utf8.encode key ∧
        (cacheDir.join (Path.ofString key').folder).components = cacheDir.components := by
  rw [components_artifactPath_of_notMem h, components_artifactPath, Utf8.encode_append]
  constructor
  · intro heq
    obtain ⟨hdir, hname⟩ := List.append_inj' heq rfl
    rw [List.singleton_inj, PathText.Component.normal.injEq, List.append_left_inj] at hname
    exact ⟨hname.symm, hdir.symm⟩
  · rintro ⟨hname, hdir⟩
    rw [hname, hdir]

end Paths

/-! ### Keys of modules -/

namespace Reference

variable {p n : Reference}

/-- **The module that has the key of a file.** There is one for each file, and no other module has
that key. The libdoc of a module has the path of the file's, by components, exactly if what stands behind
the last separator of its name is that key and what stands before it leads nowhere from the cache
directory. Written alike are the two paths only if the module has the key, or if its name is absolute
and is the path itself. All other modules without a separator in their names have files of their own. -/
theorem shared_key_iff (hp : p.kind = .physical) (hn : n.kind = .named) (cacheDir : Path) :
    (Reference.mk (p.logicalName ++ "-" ++ p.fingerprint)).kind = .named ∧
    (p.cacheKey = n.cacheKey ↔ n.raw = p.logicalName ++ "-" ++ p.fingerprint) ∧
    ((artifactPath cacheDir p.cacheKey).components = (artifactPath cacheDir n.cacheKey).components ↔
      n.path.leaf = Utf8.encode (p.logicalName ++ "-" ++ p.fingerprint) ∧
        (cacheDir.join n.path.folder).components = cacheDir.components) ∧
    (artifactPath cacheDir p.cacheKey = artifactPath cacheDir n.cacheKey ↔
      n.raw = p.logicalName ++ "-" ++ p.fingerprint ∨
        n.path.isAbsolute = true ∧ n.path = cacheDir.join (.ofString p.cacheKey)) ∧
    ('/' ∉ n.raw.toList → n.raw ≠ p.logicalName ++ "-" ++ p.fingerprint →
      ∀ (fs : FileSystem) (k k' : Location) (e e' : Entry),
        fs.locate false (artifactPath cacheDir p.cacheKey) = .ok (.taken k e) →
        fs.locate false (artifactPath cacheDir n.cacheKey) = .ok (.taken k' e') → k ≠ k') := by
  have hslash := slash_notMem_cacheKey hp
  have hnamed := kind_cacheKey hp
  have hdash : (45 : UInt8) ∈ Utf8.encode p.cacheKey := by
    rw [Utf8.mem_encode_iff (c := '-') (by decide) (by decide), cacheKey_of_physical hp]
    simp
  rw [← cacheKey_of_physical hp, cacheKey_of_named hn]
  refine ⟨hnamed, eq_comm, components_artifactPath_eq_iff_leaf hslash cacheDir,
    artifactPath_eq_iff hslash (List.ne_nil_of_mem hdash) cacheDir, ?_⟩
  intro hplain hne fs k k' e e' hk hk'
  refine FileSystem.location_ne_of_name_ne (isPlain_artifact hslash) (isPlain_artifact hplain) ?_ hk hk'
  exact fun heq => hne (artifactName_eq_iff.mp heq).symm

/-- The modules `foo`, `foo-b08fd7a517303ab0` and `.//foo-b08fd7a517303ab0` beside the file `foo.py`. -/
theorem shared_key_iff_sample :
    (Reference.mk "foo.py").kind = .physical ∧ (Reference.mk "foo").kind = .named ∧
    (Reference.mk "foo-b08fd7a517303ab0").kind = .named ∧
    (Reference.mk ".//foo-b08fd7a517303ab0").kind = .named ∧
    (Reference.mk "foo.py").cacheKey ≠ (Reference.mk "foo").cacheKey ∧
    (Reference.mk "foo.py").cacheKey = (Reference.mk "foo-b08fd7a517303ab0").cacheKey ∧
    (Reference.mk "foo.py").cacheKey ≠ (Reference.mk ".//foo-b08fd7a517303ab0").cacheKey ∧
    (artifactPath (.ofString "cache") (Reference.mk "foo.py").cacheKey).components =
      (artifactPath (.ofString "cache")
        (Reference.mk ".//foo-b08fd7a517303ab0").cacheKey).components := by
  have hp : (Reference.mk "foo.py").kind = .physical := by decide +kernel
  have hn : (Reference.mk "foo").kind = .named := by decide +kernel
  have hn' : (Reference.mk "foo-b08fd7a517303ab0").kind = .named := by decide +kernel
  have hn'' : (Reference.mk ".//foo-b08fd7a517303ab0").kind = .named := by decide +kernel
  refine ⟨hp, hn, hn', hn'', fun h => ?_, ?_, fun h => ?_, ?_⟩
  · exact absurd ((shared_key_iff hp hn (.ofString "cache")).2.1.mp h) (by decide +kernel)
  · exact (shared_key_iff hp hn' (.ofString "cache")).2.1.mpr (by decide +kernel)
  · exact absurd ((shared_key_iff hp hn'' (.ofString "cache")).2.1.mp h) (by decide +kernel)
  · exact (shared_key_iff hp hn'' (.ofString "cache")).2.2.1.mpr (by decide +kernel)

/-- `foo.py` and the module `foo-b08fd7a517303ab0` share a libdoc. -/
theorem file_and_module_share_libdoc :
    (Reference.mk "foo.py").kind = .physical ∧ (Reference.mk "foo-b08fd7a517303ab0").kind = .named ∧
    (Reference.mk "foo.py").cacheKey = (Reference.mk "foo-b08fd7a517303ab0").cacheKey ∧
    artifactPath (.ofString "cache") (Reference.mk "foo.py").cacheKey =
      artifactPath (.ofString "cache") (Reference.mk "foo-b08fd7a517303ab0").cacheKey := by
  decide +kernel

/-! ### Keys of files -/

variable {a b : Reference}

/-- The fingerprint is the front of the whole digest as it is written. -/
theorem toList_fingerprint (r : Reference) :
    r.fingerprint.toList = (Sha256.hex (Sha256.digest (Utf8.encode r.raw))).toList.take 16 :=
  (Sha256.take_hex _ 8).symm

theorem fingerprint_eq_iff : a.fingerprint = b.fingerprint ↔
    (Sha256.digest (Utf8.encode a.raw)).take 8 = (Sha256.digest (Utf8.encode b.raw)).take 8 :=
  Sha256.hex_injective.eq_iff

/-- A key ends in a fingerprint of 16 digits, so it says where its stem ends. -/
theorem cacheKey_eq_iff (ha : a.kind = .physical) (hb : b.kind = .physical) :
    a.cacheKey = b.cacheKey ↔ a.logicalName = b.logicalName ∧ a.fingerprint = b.fingerprint := by
  rw [cacheKey_of_physical ha, cacheKey_of_physical hb]
  constructor
  · intro h
    have hlists := congrArg String.toList h
    rw [String.toList_append, String.toList_append, String.toList_append, String.toList_append] at hlists
    obtain ⟨hfront, hprint⟩ := List.append_inj' hlists
      (by rw [length_fingerprint, length_fingerprint])
    exact ⟨String.toList_injective (List.append_cancel_right hfront), String.toList_injective hprint⟩
  · rintro ⟨hname, hprint⟩
    rw [hname, hprint]

/-- **Files share a libdoc through the digest alone.** Two files have one key exactly if they have one stem
and the digests of their paths agree in the first 16 digits. Whatever the cache directory is, their libdocs
have one path exactly if they have one key, by the components of the paths and by their texts. So in no
file system are the libdocs of two files one entry unless the stems agree and the first 64 bits of the
digests collide. -/
theorem keys_collide_through_digest (ha : a.kind = .physical) (hb : b.kind = .physical) :
    (a.cacheKey = b.cacheKey ↔
      a.logicalName = b.logicalName ∧
        (Sha256.hex (Sha256.digest (Utf8.encode a.raw))).toList.take 16 =
          (Sha256.hex (Sha256.digest (Utf8.encode b.raw))).toList.take 16) ∧
    ∀ cacheDir : Path,
      ((artifactPath cacheDir a.cacheKey).components = (artifactPath cacheDir b.cacheKey).components ↔
        a.cacheKey = b.cacheKey) ∧
      (artifactPath cacheDir a.cacheKey = artifactPath cacheDir b.cacheKey ↔
        a.cacheKey = b.cacheKey) ∧
      ∀ (fs : FileSystem) (l : Location) (e e' : Entry),
        fs.locate false (artifactPath cacheDir a.cacheKey) = .ok (.taken l e) →
        fs.locate false (artifactPath cacheDir b.cacheKey) = .ok (.taken l e') →
        a.logicalName = b.logicalName ∧
          (Sha256.digest (Utf8.encode a.raw)).take 8 = (Sha256.digest (Utf8.encode b.raw)).take 8 := by
  have hslash := slash_notMem_cacheKey ha
  have hslash' := slash_notMem_cacheKey hb
  have hkey := cacheKey_eq_iff ha hb
  refine ⟨?_, fun cacheDir => ?_⟩
  · rw [hkey, ← toList_fingerprint, ← toList_fingerprint, String.toList_inj]
  · have hpath := components_artifactPath_eq_iff hslash hslash' cacheDir
    refine ⟨hpath, ⟨fun h => hpath.mp (congrArg Path.components h), fun h => by rw [h]⟩, ?_⟩
    intro fs l e e' hlibdoc hlibdoc'
    have hsame : a.cacheKey = b.cacheKey := by
      by_contra hne
      exact FileSystem.location_ne_of_name_ne (isPlain_artifact hslash) (isPlain_artifact hslash')
        (fun h => hne (artifactName_eq_iff.mp h)) hlibdoc hlibdoc' rfl
    rwa [hkey, fingerprint_eq_iff] at hsame

/-- Two files named `custom` in different directories, and a file that is named by the key of the first. -/
theorem keys_collide_through_digest_sample :
    let a := Reference.mk "/tmp/a/custom.py"
    let b := Reference.mk "/tmp/b/custom.py"
    let c := Reference.mk (a.cacheKey ++ ".py")
    (a.kind = .physical ∧ b.kind = .physical ∧ c.kind = .physical) ∧
    a.logicalName = b.logicalName ∧ c.logicalName = a.cacheKey ∧
    ∀ cacheDir : Path,
      (artifactPath cacheDir a.cacheKey).components ≠ (artifactPath cacheDir b.cacheKey).components ∧
      (artifactPath cacheDir a.cacheKey).components ≠ (artifactPath cacheDir c.cacheKey).components := by
  intro a b c
  have ha : a.kind = .physical := by decide +kernel
  have hb : b.kind = .physical := by decide +kernel
  have hc : c.kind = .physical := by decide +kernel
  refine ⟨⟨ha, hb, hc⟩, by decide +kernel, by decide +kernel, fun cacheDir => ⟨fun h => ?_, fun h => ?_⟩⟩
  · have hkey := (((keys_collide_through_digest ha hb).2 cacheDir).1).mp h
    exact absurd ((keys_collide_through_digest ha hb).1.mp hkey).2 (by decide +kernel)
  · have hkey := (((keys_collide_through_digest ha hc).2 cacheDir).1).mp h
    exact absurd ((keys_collide_through_digest ha hc).1.mp hkey).1 (by decide +kernel)

end Reference

end KeywordDocs
