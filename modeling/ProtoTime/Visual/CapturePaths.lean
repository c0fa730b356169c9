import ProtoTime.Visual.CaptureRuns

/-!
Where the pictures of a session lie and how the service tells them apart: the path in a rule
leads to the file that was written, different files have different normal paths, and
descriptors of one machine under one key share their file.
-/
namespace ProtoTime.Visual

open Json VisualPackLimits

/-! ## Paths of pictures -/

theorem separator_not_mem_visualResourceKindName (kind : VisualResourceKind) :
    Path.separator ∉ visualResourceKindName kind := by
  cases kind <;> decide

theorem separator_not_mem_dumpNat (n : ℕ) : Path.separator ∉ dumpNat n := by
  intro h
  exact absurd (dumpNat_isDigitByte n _ h) (by decide)

theorem separator_not_mem_toHexVisualHash (hash : UInt64) :
    Path.separator ∉ toHexVisualHash hash := by
  have hdigits := Numerals.paddedNumeral_lt (by decide : 1 < 16) 16 hash.toNat
  have hdigit : ∀ d < 16, hexDigit d ≠ Path.separator := by decide
  intro h
  simp only [toHexVisualHash, prefixedHex, List.mem_cons, List.mem_map] at h
  rcases h with h | h | ⟨d, hd, h⟩
  · exact absurd h (by decide)
  · exact absurd h (by decide)
  · exact hdigit d (hdigits d hd) h

theorem separator_not_mem_captureFileName (descriptor : VisualResourceDescriptor) :
    Path.separator ∉ captureFileName descriptor := by
  have hpng : Path.separator ∉ utf8 ".png" := by decide
  have hlow : Path.separator ≠ byte '_' := by decide
  have hx : Path.separator ≠ byte 'x' := by decide
  simp [captureFileName, separator_not_mem_visualResourceKindName, separator_not_mem_dumpNat,
    separator_not_mem_toHexVisualHash, hpng, hlow, hx]

theorem length_captureFileName (descriptor : VisualResourceDescriptor) :
    2 < (captureFileName descriptor).length := by
  unfold captureFileName
  simp only [List.length_append, length_toHexVisualHash]
  omega

theorem captureFileName_plain (descriptor : VisualResourceDescriptor) :
    captureFileName descriptor ≠ [] ∧ captureFileName descriptor ≠ utf8 "."
      ∧ captureFileName descriptor ≠ utf8 ".." := by
  have hlength := length_captureFileName descriptor
  have hdot : (utf8 ".").length = 1 := by decide
  have hdots : (utf8 "..").length = 2 := by decide
  refine ⟨?_, ?_, ?_⟩
  · intro h
    rw [h] at hlength
    simp at hlength
  · intro h
    rw [h] at hlength
    omega
  · intro h
    rw [h] at hlength
    omega

theorem visualResourceKindName_plain (kind : VisualResourceKind) :
    visualResourceKindName kind ≠ utf8 "." ∧ visualResourceKindName kind ≠ utf8 ".." := by
  cases kind <;> decide

/-- A picture's path in the pack leads to the file that the session wrote. -/
theorem join_captureRelativePath (directory : Path) (descriptor : VisualResourceDescriptor) :
    (packPath directory).parent.join (Path.ofText (captureRelativePath descriptor))
      = captureFilePath directory descriptor := by
  have hkind := separator_not_mem_visualResourceKindName descriptor.kind
  have hfile := separator_not_mem_captureFileName descriptor
  have hkindNil := visualResourceKindName_ne_nil descriptor.kind
  have hfileNil := (captureFileName_plain descriptor).1
  have hparts : (captureRelativePath descriptor).splitOn Path.separator
      = [visualResourceKindName descriptor.kind, captureFileName descriptor] := by
    unfold captureRelativePath
    rw [show byte '/' = Path.separator from rfl, List.splitOn_append_cons_self,
      List.splitOn_eq_singleton hkind, List.splitOn_eq_singleton hfile]
    rfl
  have hrelative : ((captureRelativePath descriptor).head? == some Path.separator) = false := by
    unfold captureRelativePath
    cases hname : visualResourceKindName descriptor.kind with
    | nil => exact absurd hname hkindNil
    | cons b name =>
      have hne : b ≠ Path.separator := by
        intro heq
        rw [hname, heq] at hkind
        exact hkind List.mem_cons_self
      simpa using hne
  have hplain : directory.plainNames.filter (fun name => !name.isEmpty) = directory.plainNames := by
    unfold Path.plainNames
    rw [List.filter_filter]
    simp
  have hsplit : Path.ofText (captureRelativePath descriptor)
      = { absolute := false,
          names := [visualResourceKindName descriptor.kind, captureFileName descriptor] } := by
    unfold Path.ofText Path.split
    dsimp only
    rw [hparts, hrelative]
    simp [hkindNil, hfileNil]
  have hparent : (packPath directory).parent
      = { absolute := directory.absolute, names := directory.plainNames } := by
    simp [packPath, Path.child, Path.join, Path.parent]
  have hnames := names_captureFilePath directory descriptor
  have hjoin (names : List Text) :
      Path.join { absolute := directory.absolute, names := directory.plainNames }
        { absolute := false, names := names }
      = { absolute := directory.absolute, names := directory.plainNames ++ names } := by
    unfold Path.join
    rw [if_neg Bool.false_ne_true]
    change Path.mk directory.absolute (directory.plainNames.filter _ ++ names) = _
    rw [hplain]
  rw [hsplit, hparent, hjoin, ← hnames]
  rfl

/-- The normal form of the path of a picture ends with its two names. -/
theorem names_lexicallyNormal_captureFilePath (directory : Path)
    (descriptor : VisualResourceDescriptor) :
    (captureFilePath directory descriptor).lexicallyNormal.names
      = directory.plainNames.foldl (Path.normalStep directory.absolute) []
        ++ [visualResourceKindName descriptor.kind, captureFileName descriptor] := by
  obtain ⟨hfileNil, hfileDot, hfileDots⟩ := captureFileName_plain descriptor
  obtain ⟨hkindDot, hkindDots⟩ := visualResourceKindName_plain descriptor.kind
  have hkindNil := visualResourceKindName_ne_nil descriptor.kind
  have hnames := names_captureFilePath directory descriptor
  have habsolute : (captureFilePath directory descriptor).absolute = directory.absolute := rfl
  have hplain : (captureFilePath directory descriptor).plainNames = directory.plainNames
      ++ [visualResourceKindName descriptor.kind, captureFileName descriptor] := by
    unfold Path.plainNames at hnames ⊢
    rw [hnames, List.filter_append, List.filter_filter]
    simp [hkindNil, hfileNil]
  have hfold : (captureFilePath directory descriptor).plainNames.foldl
      (Path.normalStep (captureFilePath directory descriptor).absolute) []
      = directory.plainNames.foldl (Path.normalStep directory.absolute) []
        ++ [visualResourceKindName descriptor.kind, captureFileName descriptor] := by
    rw [hplain, habsolute, List.foldl_append]
    simp [Path.normalStep, hkindDot, hkindDots, hfileDot, hfileDots]
  have hclosed : (captureFilePath directory descriptor).endsOpen = false := by
    unfold Path.endsOpen
    rw [hnames]
    simp [hfileNil, hfileDot, hfileDots]
  unfold Path.lexicallyNormal
  rw [hfold, hclosed]
  simp

variable {a b : VisualResourceDescriptor}

theorem lexicallyNormal_captureFilePath_inj {directory : Path}
    (h : (captureFilePath directory a).lexicallyNormal
      = (captureFilePath directory b).lexicallyNormal) : SameFile a b := by
  have hnames := congrArg Path.names h
  rw [names_lexicallyNormal_captureFilePath, names_lexicallyNormal_captureFilePath] at hnames
  have hlast := List.append_cancel_left hnames
  simp only [List.cons.injEq, and_true] at hlast
  exact captureFileName_injective (visualResourceKindName_injective hlast.1) hlast.2

/-! ## Keys of descriptors -/

theorem split_at_inj {b : UInt8} {xs ys r s : Text} (hx : b ∉ xs) (hy : b ∉ ys)
    (h : xs ++ b :: r = ys ++ b :: s) : xs = ys ∧ r = s := by
  induction xs generalizing ys with
  | nil =>
    cases ys with
    | nil => exact ⟨rfl, (List.cons.inj h).2⟩
    | cons y ys => exact absurd (List.cons.inj h).1 (List.ne_of_not_mem_cons hy)
  | cons x xs ih =>
    cases ys with
    | nil => exact absurd (List.cons.inj h).1.symm (List.ne_of_not_mem_cons hx)
    | cons y ys =>
      obtain ⟨hhead, htail⟩ := List.cons.inj h
      obtain ⟨hrest, hend⟩ := ih (List.not_mem_of_not_mem_cons hx)
        (List.not_mem_of_not_mem_cons hy) htail
      exact ⟨by rw [hhead, hrest], hend⟩

theorem bar_not_mem_visualResourceKindName (kind : VisualResourceKind) :
    byte '|' ∉ visualResourceKindName kind := by
  cases kind <;> decide

theorem makeDescriptorKey_contentHash
    (h : makeDescriptorKey a = makeDescriptorKey b) : a.contentHash = b.contentHash := by
  have hlength (x y : UInt64) : (toHexVisualHash x).length = (toHexVisualHash y).length := by
    rw [length_toHexVisualHash, length_toHexVisualHash]
  have haware := (List.append_inj' h (hlength _ _)).1
  have hbar := (List.append_inj' haware rfl).1
  have hpalette := (List.append_inj' hbar (hlength _ _)).1
  have hbar' := (List.append_inj' hpalette rfl).1
  exact toHexVisualHash_injective (List.append_inj' hbar' (hlength _ _)).2

theorem sameFile_of_makeDescriptorKey
    (hmachine : a.machineId = b.machineId) (h : makeDescriptorKey a = makeDescriptorKey b) :
    SameFile a b := by
  have hhash := makeDescriptorKey_contentHash h
  unfold makeDescriptorKey at h
  rw [hmachine] at h
  simp only [List.append_assoc, List.cons_append, List.nil_append] at h
  have hafter := (List.cons.inj (List.append_cancel_left h)).2
  obtain ⟨hkind, hsize⟩ := split_at_inj (bar_not_mem_visualResourceKindName _)
    (bar_not_mem_visualResourceKindName _) hafter
  obtain ⟨hwidth, hrest⟩ := dumpNat_append_inj (by decide) hsize
  obtain ⟨hheight, _⟩ := dumpNat_append_inj (by decide) hrest
  exact ⟨visualResourceKindName_injective hkind, hhash, UInt32.toNat_inj.mp hwidth,
    UInt32.toNat_inj.mp hheight⟩

end ProtoTime.Visual
