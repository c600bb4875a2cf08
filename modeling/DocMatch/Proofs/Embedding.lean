import DocMatch.Comparison.Difference
import DocMatch.Proofs.Maximum
import Mathlib.Data.Fintype.Prod
/-!
Distinct places for expected items.  Where order does not matter, a list of
expected items is found in a list of actual ones if and only if the expected
positions can be sent to distinct actual positions that fit; and otherwise as many
items are reported missing as any choice of distinct places must leave out.
-/

namespace DocMatch

namespace Assignment

variable {ε α : Type}

/-- Whether the items at two positions fit. -/
def FitsAt (fits : ε → α → Prop) (expected : List ε) (actual : List α)
    (e : Fin expected.length) (a : Fin actual.length) : Prop :=
  fits expected[e] actual[a]

/-- Whether the expected positions can be sent to distinct actual ones that fit. -/
def Embeds (fits : ε → α → Prop) (expected : List ε) (actual : List α) : Prop :=
  ∃ place : Fin expected.length → Fin actual.length,
    Function.Injective place ∧ ∀ e, FitsAt fits expected actual e (place e)

variable {fits fits' : ε → α → Prop} {expected : List ε} {actual : List α}

theorem Embeds.length_le (h : Embeds fits expected actual) : expected.length ≤ actual.length := by
  obtain ⟨place, hinjective, -⟩ := h
  simpa using Fintype.card_le_of_injective place hinjective

theorem Embeds.mono (h : Embeds fits expected actual)
    (himp : ∀ e ∈ expected, ∀ a ∈ actual, fits e a → fits' e a) :
    Embeds fits' expected actual := by
  obtain ⟨place, hinjective, hfits⟩ := h
  exact ⟨place, hinjective, fun e =>
    himp _ (List.getElem_mem _) _ (List.getElem_mem _) (hfits e)⟩

/-- Items that fit one by one have distinct places. -/
theorem Embeds.of_forall₂ (h : List.Forall₂ fits expected actual) :
    Embeds fits expected actual := by
  refine ⟨Fin.cast h.length_eq, Fin.cast_injective h.length_eq, fun e => ?_⟩
  exact h.get e.isLt (h.length_eq ▸ e.isLt)

/-- Places of places are places. -/
theorem Embeds.trans {γ : Type} {rel : α → γ → Prop} {rel' : ε → γ → Prop} {others : List γ}
    (h : Embeds fits expected actual) (h' : Embeds rel actual others)
    (himp : ∀ e ∈ expected, ∀ a ∈ actual, ∀ c ∈ others, fits e a → rel a c → rel' e c) :
    Embeds rel' expected others := by
  obtain ⟨place, hinjective, hfits⟩ := h
  obtain ⟨place', hinjective', hrel⟩ := h'
  refine ⟨place' ∘ place, hinjective'.comp hinjective, fun e => ?_⟩
  exact himp _ (List.getElem_mem _) _ (List.getElem_mem _) _ (List.getElem_mem _) (hfits e)
    (hrel (place e))

/-- A full choice of places is a matching with as many pairs as there are expected items. -/
theorem embeds_iff_length_mem :
    Embeds fits expected actual ↔
      expected.length ∈ MatchingSizes (FitsAt fits expected actual) := by
  constructor
  · rintro ⟨place, hinjective, hfits⟩
    refine ⟨Finset.univ.image fun e => (e, place e), ⟨?_, ?_, ?_⟩, ?_⟩
    · intro q hq
      obtain ⟨e, -, rfl⟩ := Finset.mem_image.1 hq
      exact hfits e
    · intro q hq r hr hsame
      obtain ⟨e, -, rfl⟩ := Finset.mem_image.1 hq
      obtain ⟨d, -, rfl⟩ := Finset.mem_image.1 hr
      simp only at hsame
      rw [hsame]
    · intro q hq r hr hsame
      obtain ⟨e, -, rfl⟩ := Finset.mem_image.1 hq
      obtain ⟨d, -, rfl⟩ := Finset.mem_image.1 hr
      rw [hinjective hsame]
    · rw [Finset.card_image_of_injective _ fun e d hsame => congrArg Prod.fst hsame,
        Finset.card_univ, Fintype.card_fin]
  · rintro ⟨pairs, hpairs, hcard⟩
    have hfst : pairs.image Prod.fst = Finset.univ := by
      have himage := Finset.card_image_of_injOn fun q hq r hr => hpairs.fst_inj q hq r hr
      rw [← Finset.card_eq_iff_eq_univ, Fintype.card_fin]
      exact himage.trans hcard
    have hplace : ∀ e, ∃ a, (e, a) ∈ pairs := by
      intro e
      obtain ⟨q, hq, hitem⟩ := Finset.mem_image.1 (hfst ▸ Finset.mem_univ e)
      exact ⟨q.2, hitem ▸ hq⟩
    choose place hmem using hplace
    refine ⟨place, ?_, fun e => hpairs.fits _ (hmem e)⟩
    intro e d hsame
    exact congrArg Prod.fst (hpairs.snd_inj _ (hmem e) _ (hmem d) hsame)

section Positions

variable {γ δ : Type} {fits : α → γ → Prop} {fits' : ε → δ → Prop}
  {f : α → ε} {g : γ → δ} {pairs : Finset (α × γ)}

theorem IsMatching.image [DecidableEq ε] [DecidableEq δ] (h : IsMatching fits pairs)
    (hf : Function.Injective f) (hg : Function.Injective g)
    (himp : ∀ e a, fits e a → fits' (f e) (g a)) :
    IsMatching fits' (pairs.image (Prod.map f g)) where
  fits := by
    intro q hq
    obtain ⟨r, hr, rfl⟩ := Finset.mem_image.1 hq
    exact himp _ _ (h.fits r hr)
  fst_inj := by
    intro _ hq _ hr hsame
    obtain ⟨q, hq', rfl⟩ := Finset.mem_image.1 hq
    obtain ⟨r, hr', rfl⟩ := Finset.mem_image.1 hr
    rw [h.fst_inj q hq' r hr' (hf hsame)]
  snd_inj := by
    intro _ hq _ hr hsame
    obtain ⟨q, hq', rfl⟩ := Finset.mem_image.1 hq
    obtain ⟨r, hr', rfl⟩ := Finset.mem_image.1 hr
    rw [h.snd_inj q hq' r hr' (hg hsame)]

theorem IsMatching.of_image [DecidableEq ε] [DecidableEq δ] (hf : Function.Injective f)
    (hg : Function.Injective g) (h : IsMatching fits' (pairs.image (Prod.map f g)))
    (himp : ∀ e a, fits' (f e) (g a) → fits e a) : IsMatching fits pairs where
  fits _ hq := himp _ _ (h.fits _ (Finset.mem_image_of_mem _ hq))
  fst_inj _ hq _ hr hsame := (hf.prodMap hg) <|
    h.fst_inj _ (Finset.mem_image_of_mem _ hq) _ (Finset.mem_image_of_mem _ hr) (congrArg f hsame)
  snd_inj _ hq _ hr hsame := (hf.prodMap hg) <|
    h.snd_inj _ (Finset.mem_image_of_mem _ hq) _ (Finset.mem_image_of_mem _ hr) (congrArg g hsame)

end Positions

/-- Positions below two bounds may as well be natural numbers. -/
theorem matchingSizes_fin {m n : Nat} {onNat : Nat → Nat → Prop} {onFin : Fin m → Fin n → Prop}
    (hiff : ∀ (e : Fin m) (a : Fin n), onNat e a ↔ onFin e a)
    (hbound : ∀ e a, onNat e a → e < m ∧ a < n) :
    MatchingSizes onNat = MatchingSizes onFin := by
  let val : Fin m × Fin n → Nat × Nat := Prod.map Fin.val Fin.val
  have hval : Function.Injective val := Fin.val_injective.prodMap Fin.val_injective
  ext size
  constructor
  · rintro ⟨pairs, hpairs, rfl⟩
    have himage : (Finset.univ.filter fun q => val q ∈ pairs).image val = pairs := by
      ext q
      simp only [Finset.mem_image, Finset.mem_filter, Finset.mem_univ, true_and]
      constructor
      · rintro ⟨r, hr, rfl⟩
        exact hr
      · intro hq
        obtain ⟨he, ha⟩ := hbound _ _ (hpairs.fits q hq)
        exact ⟨(⟨q.1, he⟩, ⟨q.2, ha⟩), hq, rfl⟩
    refine ⟨Finset.univ.filter fun q => val q ∈ pairs, ?_, ?_⟩
    · refine .of_image Fin.val_injective Fin.val_injective ?_ fun e a => (hiff e a).1
      rwa [← himage] at hpairs
    · rw [← Finset.card_image_of_injective _ hval, himage]
  · rintro ⟨pairs, hpairs, rfl⟩
    refine ⟨pairs.image val, ?_, Finset.card_image_of_injective _ hval⟩
    exact hpairs.image Fin.val_injective Fin.val_injective fun e a => (hiff e a).2

end Assignment

theorem mem_truePlaces {row : List Bool} {a : Nat} :
    a ∈ truePlaces row ↔ row[a]? = some true := by
  simp only [truePlaces, List.mem_filterMap, Prod.exists, List.mem_zipIdx_iff_getElem?]
  constructor
  · rintro ⟨b, i, hb, hplace⟩
    cases b
    · cases hplace
    · cases hplace
      exact hb
  · intro h
    exact ⟨true, a, h, rfl⟩

section Rows

open Assignment

variable {ε α : Type} (verdict : ε → α → Bool) (expected : List ε) (actual : List α)

/-- For each expected item, which actual ones match it. -/
def verdictRows : List (List Bool) :=
  expected.map fun e => actual.map fun a => verdict e a

theorem admits_verdictRows (e : Fin expected.length) (a : Fin actual.length) :
    Admits (candidatesOf ((verdictRows verdict expected actual).map truePlaces)) expected.length
        actual.length e a ↔
      FitsAt (fun e a => verdict e a = true) expected actual e a := by
  have he := e.isLt
  have ha := a.isLt
  simp [Admits, FitsAt, candidatesOf, verdictRows, mem_truePlaces]

/-- The search for places is as successful as any choice of places. -/
theorem isGreatest_placed :
    IsGreatest (MatchingSizes (FitsAt (fun e a => verdict e a = true) expected actual))
      ((maximum ((verdictRows verdict expected actual).map truePlaces) actual.length).countP
        Option.isSome) := by
  have h := isGreatest_countP_maximum ((verdictRows verdict expected actual).map truePlaces)
    actual.length
  have hlength : ((verdictRows verdict expected actual).map truePlaces).length =
      expected.length := by
    simp [verdictRows]
  rw [hlength] at h
  rwa [matchingSizes_fin (admits_verdictRows verdict expected actual)
    fun e a hadmits => ⟨hadmits.1, hadmits.2.1⟩] at h

/-- Whether a mismatch says that an expected item finds no place of its own. -/
def Mismatch.isMissingItem : Mismatch → Bool
  | .missingItem _ => true
  | _ => false

/-- The mismatches that stand for expected items without a place. -/
theorem length_missing {describe : ε → String} {places : List (Option Nat)}
    (hlength : expected.length = places.length) :
    ((expected.zip places).filterMap fun (item, place) =>
        if place.isNone then some (Mismatch.missingItem (describe item)) else none).length +
      places.countP Option.isSome = expected.length := by
  induction expected generalizing places with
  | nil =>
      cases places with
      | nil => rfl
      | cons place places => cases hlength
  | cons item expected ih =>
      cases places with
      | nil => cases hlength
      | cons place places =>
          have hrest := ih (Nat.succ.inj hlength)
          cases place <;> simp at hrest ⊢ <;> omega

/-- Whether the lengths leave room for a place for every expected item. -/
def Mode.AllowsLengths (mode : Mode) (expectedCount actualCount : Nat) : Prop :=
  expectedCount ≤ actualCount ∧ (mode = .containsOnly → expectedCount = actualCount)

variable {verdict expected actual} {mode : Mode} {describe : ε → String}

theorem containmentMismatches_any (hmode : mode = .containsAny) :
    containmentMismatches mode describe expected actual.length
        (verdictRows verdict expected actual) = [] ↔
      ∃ e ∈ expected, ∃ a ∈ actual, verdict e a = true := by
  simp [containmentMismatches, hmode, verdictRows]

/-- Where the lengths allow it, what is reported is the items without a place. -/
theorem containmentMismatches_of_lengths (hmode : mode ≠ .containsAny)
    (hlengths : mode.AllowsLengths expected.length actual.length) :
    containmentMismatches mode describe expected actual.length
        (verdictRows verdict expected actual) =
      (expected.zip (maximum ((verdictRows verdict expected actual).map truePlaces)
        actual.length)).filterMap fun (item, place) =>
          if place.isNone then some (.missingItem (describe item)) else none := by
  have honly : (mode = .containsOnly && decide (expected.length ≠ actual.length)) = false := by
    by_cases h : mode = .containsOnly <;> simp [h, hlengths.2]
  rw [containmentMismatches, if_neg hmode, if_neg (Nat.not_lt.2 hlengths.1), honly]
  rfl

theorem containmentMismatches_ne_nil (hmode : mode ≠ .containsAny)
    (hlengths : ¬ mode.AllowsLengths expected.length actual.length) {fits : List (List Bool)} :
    containmentMismatches mode describe expected actual.length fits ≠ [] := by
  intro hnil
  rw [containmentMismatches, if_neg hmode] at hnil
  split at hnil
  · cases hnil
  · rename_i hle
    refine hlengths ⟨Nat.le_of_not_lt hle, fun honly => ?_⟩
    by_contra hne
    simp [honly, hne] at hnil

/-- As many items are reported missing as the best choice of places leaves out. -/
theorem exists_isGreatest_missing (verdict : ε → α → Bool) (describe : ε → String)
    (hmode : mode ≠ .containsAny)
    (hlengths : mode.AllowsLengths expected.length actual.length) :
    ∃ size, IsGreatest (MatchingSizes (FitsAt (fun e a => verdict e a = true) expected actual))
        size ∧
      (containmentMismatches mode describe expected actual.length
        (verdictRows verdict expected actual)).length + size = expected.length := by
  refine ⟨_, isGreatest_placed verdict expected actual, ?_⟩
  rw [containmentMismatches_of_lengths hmode hlengths]
  refine length_missing expected ?_
  rw [length_maximum, List.length_map, verdictRows, List.length_map]

/-- Where the lengths allow it, nothing else is reported. -/
theorem isMissingItem_of_mem (hmode : mode ≠ .containsAny)
    (hlengths : mode.AllowsLengths expected.length actual.length) {mismatch : Mismatch}
    (hmem : mismatch ∈ containmentMismatches mode describe expected actual.length
      (verdictRows verdict expected actual)) : mismatch.isMissingItem = true := by
  rw [containmentMismatches_of_lengths hmode hlengths, List.mem_filterMap] at hmem
  obtain ⟨⟨item, place⟩, -, hmismatch⟩ := hmem
  cases place with
  | none =>
      cases hmismatch
      rfl
  | some place => cases hmismatch

/-- Nothing is reported exactly if all expected items have distinct places. -/
theorem containmentMismatches_eq_nil_iff (hmode : mode ≠ .containsAny) :
    containmentMismatches mode describe expected actual.length
        (verdictRows verdict expected actual) = [] ↔
      (mode = .containsOnly → expected.length = actual.length) ∧
        Embeds (fun e a => verdict e a = true) expected actual := by
  by_cases hlengths : mode.AllowsLengths expected.length actual.length
  · obtain ⟨size, hgreatest, hcount⟩ :=
      exists_isGreatest_missing verdict describe hmode hlengths
    rw [embeds_iff_length_mem, ← List.length_eq_zero_iff]
    constructor
    · intro hnil
      have hsize : size = expected.length := by omega
      exact ⟨hlengths.2, hsize ▸ hgreatest.1⟩
    · rintro ⟨-, hmem⟩
      have hle := hgreatest.2 hmem
      omega
  · refine iff_of_false (containmentMismatches_ne_nil hmode hlengths) ?_
    rintro ⟨honly, hembeds⟩
    exact hlengths ⟨hembeds.length_le, honly⟩

end Rows

end DocMatch
