import FederatedCatalog.Uri.Parser

/-!
# Authorities that are disguised

A URI names a file on this host only if it has no authority. The host `localhost` leaves no trace in
the URI that is read, so the text as written is looked at too. The two readings differ: the parser
skips tabs and line breaks and takes backslashes for slashes, and the look at the text does neither.
An authority in such a spelling goes unnoticed if the parser drops it, as it does with `localhost`,
and with any host before a drive letter.

## Main definitions

* `Uri.afterColon` and `Uri.spelled`: what a text has after its scheme, and how the parser sees it;
* `Uri.opensAuthority`: two slashes without a third one, and something behind them;
* `Uri.Disguised`: the slashes of an authority, but not as two plain slashes in front.

## Main results

* `Uri.authority_of_localPath?`: a text that names a file on this host opens an authority exactly
  when it disguises one;
* `Uri.localPath?_address`: there is such a text.
-/

namespace FederatedCatalog.Uri

/-- What a text has after the first colon. -/
def afterColon (text : String) : List Char := (text.toList.dropWhile (· != ':')).drop 1

/-- How the parser sees the text after the scheme of a file URI: without the characters that are
skipped, and with slashes for backslashes. -/
def spelled (cs : List Char) : List Char :=
  (visible cs).map fun c => if c = '\\' then '/' else c

/-- The text opens with two slashes, and something other than a third slash comes next. -/
def opensAuthority : List Char → Bool
  | '/' :: '/' :: c :: _ => c != '/'
  | _ => false

/-- There are two slashes of either kind in front, possibly with skipped characters before, between
and behind them, no third one comes next, and they are not just two plain slashes at the very
front. -/
def Disguised (cs : List Char) : Prop :=
  ∃ slashes gap c rest, cs = slashes ++ (gap ++ c :: rest) ∧ spelled slashes = ['/', '/'] ∧
    slashes ≠ ['/', '/'] ∧ (∀ g ∈ gap, isIgnored g) ∧ isIgnored c = false ∧ isSlash true c = false

theorem spelled_append (a b : List Char) : spelled (a ++ b) = spelled a ++ spelled b := by
  simp [spelled, visible]

theorem spelled_of_ignored {gap : List Char} (h : ∀ g ∈ gap, isIgnored g) : spelled gap = [] := by
  simpa [spelled, visible] using h

/-- The first character that the parser sees stands behind skipped ones. -/
theorem spelled_eq_cons {cs rest : List Char} {c : Char} (h : spelled cs = c :: rest) :
    ∃ gap d tail, cs = gap ++ d :: tail ∧ (∀ g ∈ gap, isIgnored g) ∧ isIgnored d = false ∧
      (if d = '\\' then '/' else d) = c ∧ spelled tail = rest := by
  obtain ⟨d, seen, hseen, hd, htail⟩ := List.map_eq_cons_iff.mp h
  obtain ⟨gap, tail, hcs, hgap, hvisible, hrest⟩ := List.filter_eq_cons_iff.mp hseen
  refine ⟨gap, d, tail, hcs, ?_, by simpa using hvisible, hd, ?_⟩
  · intro g hg
    simpa using hgap g hg
  · rw [spelled, visible, hrest, htail]

/-- A text opens an authority for the parser when it has two slashes of either kind and then no
third one. -/
theorem opensAuthority_spelled {cs : List Char} (h : opensAuthority (spelled cs) = true) :
    ∃ slashes gap c rest, cs = slashes ++ (gap ++ c :: rest) ∧ spelled slashes = ['/', '/'] ∧
      (∀ g ∈ gap, isIgnored g) ∧ isIgnored c = false ∧ isSlash true c = false := by
  unfold opensAuthority at h
  split at h
  next c rest hspelled =>
    -- take the two slashes and the character behind them off the front, one after the other
    obtain ⟨gap₁, d₁, tail₁, rfl, hgap₁, hd₁, hslash₁, htail₁⟩ := spelled_eq_cons hspelled
    obtain ⟨gap₂, d₂, tail₂, rfl, hgap₂, hd₂, hslash₂, htail₂⟩ := spelled_eq_cons htail₁
    obtain ⟨gap, d, tail, rfl, hgap, hd, hc, -⟩ := spelled_eq_cons htail₂
    have hsingle {e : Char} (he : isIgnored e = false) :
        spelled [e] = [if e = '\\' then '/' else e] := by
      simp [spelled, visible, he]
    refine ⟨gap₁ ++ [d₁] ++ (gap₂ ++ [d₂]), gap, d, tail, by simp, ?_, hgap, hd, ?_⟩
    · simp only [spelled_append, spelled_of_ignored hgap₁, spelled_of_ignored hgap₂, hsingle hd₁,
        hsingle hd₂, hslash₁, hslash₂, List.nil_append, List.cons_append]
    · subst hc
      simp only [bne_iff_ne, ne_eq] at h
      simp only [isSlash, Bool.true_and, Bool.or_eq_false_iff, beq_eq_false_iff_ne]
      split at h <;> simp_all
  next => cases h

theorem opensAuthority_of_disguised {cs : List Char} (h : Disguised cs) :
    opensAuthority (spelled cs) = true := by
  obtain ⟨slashes, gap, c, rest, rfl, hslashes, -, hgap, hc, hslash⟩ := h
  simp only [isSlash, Bool.true_and, Bool.or_eq_false_iff, beq_eq_false_iff_ne] at hslash
  have hspelled : spelled (slashes ++ (gap ++ c :: rest)) = '/' :: '/' :: c :: spelled rest := by
    rw [spelled_append, spelled_append, hslashes, spelled_of_ignored hgap]
    simp [spelled, visible, hc, hslash.2]
  rw [hspelled]
  simpa [opensAuthority] using hslash.1

/-- Blanks in front do not come after the colon. -/
theorem dropWhile_trimStart (cs : List Char) :
    (Text.trimStart cs).dropWhile (· != ':') = cs.dropWhile (· != ':') := by
  induction cs with
  | nil => rfl
  | cons c cs ih =>
    by_cases hblank : Text.isBlank c = true
    · have hcolon : (c != ':') = true := by
        rw [bne_iff_ne]
        rintro rfl
        revert hblank
        decide
      rw [Text.trimStart, List.dropWhile_cons_of_pos hblank,
        List.dropWhile_cons_of_pos (p := (· != ':')) hcolon]
      exact ih
    · rw [Text.trimStart, List.dropWhile_cons_of_neg hblank]

/-- Two plain slashes in front are noticed, unless a third one comes next. -/
theorem writesAuthority_of_slashes {text : String} {gap rest : List Char} {c : Char}
    (h : afterColon text = ['/', '/'] ++ (gap ++ c :: rest)) (hgap : ∀ g ∈ gap, isIgnored g)
    (hc : isSlash true c = false) : writesAuthority text = true := by
  have hafter : ((Text.trimStart text.toList).dropWhile (· != ':')).drop 1 =
      ['/', '/'] ++ (gap ++ c :: rest) := by
    rw [dropWhile_trimStart]
    exact h
  -- the third character is no slash, be it a skipped one or not
  obtain ⟨d, tail, hthird, hd⟩ : ∃ d tail, gap ++ c :: rest = d :: tail ∧ d ≠ '/' := by
    cases gap with
    | nil =>
      refine ⟨c, rest, rfl, ?_⟩
      rintro rfl
      cases hc
    | cons g gap =>
      refine ⟨g, gap ++ c :: rest, rfl, ?_⟩
      rintro rfl
      exact absurd (hgap '/' List.mem_cons_self) (by decide)
  rw [writesAuthority, hafter, hthird]
  simp [hd]

/-- A text that names a file on this host is read as a file URI without host, user and port. It
opens an authority nevertheless exactly when it disguises one. -/
theorem authority_of_localPath? {text : String} {path : Path} (h : localPath? text = some path) :
    (∃ u, parse? text = some u ∧ u.scheme = fileScheme ∧ u.hasAuthority = false) ∧
      (opensAuthority (spelled (afterColon text)) = true ↔ Disguised (afterColon text)) := by
  obtain ⟨u, hparse, hpath⟩ := Option.bind_eq_some_iff.mp h
  split at hpath
  · cases hpath
  next hlocal =>
    simp only [not_or, ne_eq, Decidable.not_not, Bool.not_eq_true] at hlocal
    obtain ⟨hscheme, hauthority, hwritten⟩ := hlocal
    refine ⟨⟨u, hparse, hscheme, hauthority⟩, ?_, opensAuthority_of_disguised⟩
    intro hopens
    obtain ⟨slashes, gap, c, rest, htext, hslashes, hgap, hc, hslash⟩ :=
      opensAuthority_spelled hopens
    refine ⟨slashes, gap, c, rest, htext, hslashes, ?_, hgap, hc, hslash⟩
    -- two plain slashes would have been noticed
    rintro rfl
    rw [writesAuthority_of_slashes htext hgap hslash] at hwritten
    cases hwritten

/-- Behind two backslashes an address passes for no authority, as the drive letter drops it. -/
theorem localPath?_address :
    localPath? "file:\\\\[::1]/C:/f" = some (Path.ofString "/C:/f") ∧
      opensAuthority (spelled (afterColon "file:\\\\[::1]/C:/f")) = true := by
  decide +kernel

/-- A file URI with an empty authority opens none. -/
theorem authority_of_plain :
    (∃ u, parse? "file:///f" = some u ∧ u.scheme = fileScheme ∧ u.hasAuthority = false) ∧
      ¬ Disguised (afterColon "file:///f") := by
  have hpath : localPath? "file:///f" = some [47, 102] := by decide +kernel
  obtain ⟨hparse, hopens⟩ := authority_of_localPath? hpath
  refine ⟨hparse, fun hdisguised => ?_⟩
  have hplain : opensAuthority (spelled (afterColon "file:///f")) = false := by decide +kernel
  rw [hopens.mpr hdisguised] at hplain
  cases hplain

end FederatedCatalog.Uri
