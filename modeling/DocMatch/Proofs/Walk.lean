import DocMatch.Comparison.Matcher
import DocMatch.Proofs.Compiled
/-!
The walk of a comparison adds exactly the differences of a value, moved below the place of
the value.  So the place has no bearing on what is found, and a comparison can be studied
through its differences alone.
-/

namespace DocMatch

namespace Failure

theorem map_below_nil (failures : List Failure) : failures.map (below []) = failures :=
  List.map_id failures

theorem below_below (outer inner : Path) (f : Failure) :
    (f.below inner).below outer = f.below (outer ++ inner) := by
  simp [below]

theorem map_below_append (outer inner : Path) (failures : List Failure) :
    failures.map (below (outer ++ inner)) = (failures.map (below inner)).map (below outer) := by
  simp [below_below]

variable {place : Path} {found : Array Failure}

theorem toList_addBelow (failures : List Failure) :
    (addBelow place failures found).toList = found.toList ++ failures.map (below place) := by
  induction failures generalizing found with
  | nil => simp [addBelow]
  | cons f rest ih =>
      rw [addBelow, List.foldl_cons, ← addBelow, ih, Array.toList_push, List.map_cons,
        List.append_assoc, List.singleton_append]

/-- A missing key is reported at the container that lacks it, whatever its place is. -/
theorem toList_addAbsent (allowed : Bool) (expected : Value) (key : String) :
    (addAbsent allowed expected (place ++ [.key key]) found).toList =
      found.toList ++
        (if allowed then [] else [⟨[], .missingKey key, none, expected⟩]).map (below place) := by
  cases allowed <;> simp [addAbsent, below]

/-- What starts with nothing found is empty exactly where there is nothing to add. -/
theorem isEmpty_of_toList {step : Array Failure → Array Failure} {failures : List Failure}
    (h : ∀ found, (step found).toList = found.toList ++ failures.map (below place)) :
    (step #[]).isEmpty = failures.isEmpty := by
  rw [← Array.isEmpty_toList, h]
  simp

end Failure

open Failure

namespace ElementPattern

variable {mode : Mode} {place : Path} {found : Array Failure}

theorem toList_collectAttributes (expected : Fields Leaf) (actual : Fields String) :
    (collectAttributes expected place actual found).toList =
      found.toList ++ (attributeFailures expected actual).map (below place) := by
  induction expected generalizing found with
  | nil => simp [collectAttributes, attributeFailures]
  | cons entry rest ih =>
      obtain ⟨name, l⟩ := entry
      rw [collectAttributes, List.foldl_cons, ← collectAttributes, ih]
      change _ = found.toList ++ (_ ++ attributeFailures rest actual).map (below place)
      rw [List.map_append, ← List.append_assoc]
      congr 1
      cases hget : Fields.get? name actual with
      | none =>
          simp only [hget]
          exact toList_addAbsent l.allowsAbsent l.toValue (attributeKey name)
      | some value => simp only [hget, toList_addBelow, map_below_append]

theorem toList_collectTag (e : ElementPattern) (actual : Element) :
    (e.collectTag mode place actual found).toList =
      found.toList ++ (e.tagFailures mode actual).map (below place) := by
  rw [collectTag, toList_collectAttributes, tagFailures, List.map_append, ← List.append_assoc]
  congr 1
  generalize (if mode.isExact then extraAttributes e.attributes actual.attributes else []) = extra
  cases extra <;> simp

section Children

variable {children : List ElementPattern}
  (ih : ∀ child ∈ children, ∀ (mode : Mode) (place : Path) (actual : Element)
    (found : Array Failure), (child.collect mode place actual found).toList =
      found.toList ++ (child.failures mode actual).map (below place))
include ih

theorem toList_collectPaired (items : List Element) (places : List Path) :
    (collectPaired children items (places.map (place ++ ·)) found).toList =
      found.toList ++ (pairedFailures children items places).map (below place) := by
  induction children generalizing items places found with
  | nil => simp [collectPaired, pairedFailures]
  | cons child rest ihrest =>
      cases items with
      | nil => simp [collectPaired, pairedFailures]
      | cons item items =>
          cases places with
          | nil => simp [collectPaired, pairedFailures]
          | cons inner places =>
              have hrest := fun other hother => ih other (List.mem_cons_of_mem _ hother)
              rw [List.map_cons, collectPaired, ihrest hrest, ih child List.mem_cons_self,
                pairedFailures, List.map_append, map_below_append, List.append_assoc]

/-- It makes no difference where a pair of child elements is tried. -/
theorem probes_eq_fits {items : List Element} {places : List Path}
    (hlength : items.length = places.length) :
    probes mode children (items.zip places) = fits mode children items := by
  induction children with
  | nil => simp [probes, fits]
  | cons child rest ihrest =>
      rw [probes, fits, ihrest fun other hother => ih other (List.mem_cons_of_mem _ hother)]
      congr 1
      calc (items.zip places).map _
        _ = (items.zip places).map ((fun item => (child.failures mode item).isEmpty) ∘ Prod.fst) :=
            List.map_congr_left fun pair _ =>
              isEmpty_of_toList (ih child List.mem_cons_self mode pair.2 pair.1)
        _ = items.map _ := by rw [← List.map_map, List.map_fst_zip (Nat.le_of_eq hlength)]

end Children

theorem length_childPaths (seen : List String) (items : List Element) :
    (childPaths seen items).length = items.length := by
  induction items generalizing seen with
  | nil => rfl
  | cons item rest ih => simp [childPaths, ih]

/-- The walk over an element adds its failures, moved below its place. -/
theorem toList_collect (e : ElementPattern) :
    ∀ (mode : Mode) (place : Path) (actual : Element) (found : Array Failure),
      (e.collect mode place actual found).toList =
        found.toList ++ (e.failures mode actual).map (below place) := by
  induction e using ElementPattern.induct with
  | leaf name attributes text =>
      intro mode place actual found
      rw [collect, failures]
      split
      · simp
      · simp only [toList_addBelow, toList_collectTag, List.map_append, List.append_assoc]
  | branch name attributes children ih =>
      intro mode place actual found
      have hlength : actual.childElements.length =
          ((childPaths [] actual.childElements).map (place ++ ·)).length := by
        rw [List.length_map, length_childPaths]
      rw [collect, failures]
      split
      · simp
      · simp only [probes_eq_fits ih hlength]
        split
        · split
          · simp [toList_collectTag]
          · simp only [toList_collectPaired ih, toList_collectTag, List.map_append,
              List.append_assoc]
        · simp only [toList_addBelow, toList_collectTag, List.map_append, List.append_assoc]

end ElementPattern

namespace Pattern

variable {settings : Settings} {mode : Mode} {place : Path} {found : Array Failure}

section Parts

variable {expected : List Pattern}
  (ih : ∀ p ∈ expected, ∀ (mode : Mode) (place : Path) (actual : Value)
    (found : Array Failure), (p.collect settings mode place actual found).toList =
      found.toList ++ (p.failures settings mode actual).map (below place))
include ih

theorem toList_collectPaired (i : Nat) (items : List Value) :
    (collectPaired settings i expected place items found).toList =
      found.toList ++ (pairedFailures settings i expected items).map (below place) := by
  induction expected generalizing i items found with
  | nil => simp [collectPaired, pairedFailures]
  | cons p rest ihrest =>
      cases items with
      | nil => simp [collectPaired, pairedFailures]
      | cons item items =>
          rw [collectPaired, ihrest fun other hother => ih other (List.mem_cons_of_mem _ hother),
            ih p List.mem_cons_self, pairedFailures, List.map_append, map_below_append,
            List.append_assoc]

/-- It makes no difference where a pair of items is tried. -/
theorem probes_eq_fits (items : List Value) :
    probes settings mode expected place items = fits settings mode expected items := by
  induction expected with
  | nil => simp [probes, fits]
  | cons p rest ihrest =>
      rw [probes, fits, ihrest fun other hother => ih other (List.mem_cons_of_mem _ hother)]
      congr 1
      calc items.zipIdx.map _
        _ = items.zipIdx.map ((fun item =>
              (p.failures settings (mode.inner item p) item).isEmpty) ∘ Prod.fst) :=
            List.map_congr_left fun pair _ =>
              isEmpty_of_toList (ih p List.mem_cons_self _ (place ++ [.index pair.2]) pair.1)
        _ = items.map _ := by rw [← List.map_map, List.zipIdx_map_fst]

end Parts

section Entries

variable {expected : Fields Pattern}
  (ih : ∀ entry ∈ expected, ∀ (mode : Mode) (place : Path) (actual : Value)
    (found : Array Failure), (entry.2.collect settings mode place actual found).toList =
      found.toList ++ (entry.2.failures settings mode actual).map (below place))
include ih

/-- It makes no difference where an entry is tried. -/
theorem probesEntry_eq_anyEntryFits (entries : Fields Value) :
    probesEntry settings expected place entries = anyEntryFits settings expected entries := by
  induction expected with
  | nil => simp [probesEntry, anyEntryFits]
  | cons entry rest ihrest =>
      rw [probesEntry, anyEntryFits,
        ihrest fun other hother => ih other (List.mem_cons_of_mem _ hother)]
      congr 1
      cases Fields.get? entry.1 entries with
      | none => rfl
      | some v => exact isEmpty_of_toList (ih entry List.mem_cons_self .equals _ v)

theorem toList_collectEntries (entries : Fields Value) :
    (collectEntries settings mode expected place entries found).toList =
      found.toList ++ (entryFailures settings mode expected entries).map (below place) := by
  induction expected generalizing found with
  | nil => simp [collectEntries, entryFailures]
  | cons entry rest ihrest =>
      rw [collectEntries, ihrest fun other hother => ih other (List.mem_cons_of_mem _ hother),
        entryFailures, List.map_append, ← List.append_assoc]
      congr 1
      cases Fields.get? entry.1 entries with
      | none => exact toList_addAbsent entry.2.allowsAbsent entry.2.toValue entry.1
      | some v => exact (ih entry List.mem_cons_self _ _ v found).trans (by rw [map_below_append])

end Entries

/-- The walk over a value adds its failures, moved below its place. -/
theorem toList_collect (p : Pattern) :
    ∀ (mode : Mode) (place : Path) (actual : Value) (found : Array Failure),
      (p.collect settings mode place actual found).toList =
        found.toList ++ (p.failures settings mode actual).map (below place) := by
  induction p using Pattern.induct with
  | leaf l =>
      intro mode place actual found
      rw [collect, failures, toList_addBelow]
  | sequence expected ih =>
      intro mode place actual found
      rw [collect, failures]
      simp only [probes_eq_fits ih]
      cases actual.unfolded settings with
      | sequence items =>
          simp only
          split
          · split
            · simp
            · exact toList_collectPaired ih 0 items
          · exact toList_addBelow _
      | _ => simp
  | mapping expected ih =>
      intro mode place actual found
      rw [collect, failures]
      simp only [probesEntry_eq_anyEntryFits ih]
      cases actual.unfolded settings with
      | mapping entries =>
          simp only
          generalize (if mode.isExact then extraEntries expected entries else []) = extra
          split
          · cases extra <;> split <;> simp
          · rw [toList_collectEntries ih, List.map_append, ← List.append_assoc]
            cases extra <;> simp
      | _ => simp
  | element e =>
      intro mode place actual found
      rw [collect, failures]
      cases actual.unfolded settings with
      | element actual => exact e.toList_collect mode place actual found
      | _ => simp

end Pattern

namespace Matcher

variable {m : Matcher} {p : Pattern}

theorem judge_map_below (mode : Mode) (place : Path) (actual : Option Value) (expected : Value)
    (failures : List Failure) :
    judge mode place actual expected (failures.map (below place)) =
      (judge mode [] actual expected failures).map (below place) := by
  unfold judge
  cases mode.isNegated <;> cases failures <;> simp [below]

theorem judge_eq_nil_iff {mode : Mode} {place : Path} {found : Option Value} {expected : Value}
    {failures : List Failure} :
    judge mode place found expected failures = [] ↔ (failures = [] ↔ mode.isNegated = false) := by
  unfold judge
  cases mode.isNegated <;> cases failures <;> simp

/-- The failures of a value are its differences, turned around for a negated mode. -/
theorem failures_eq_judge (mode : Mode) (v : Value) :
    m.failures mode p v =
      judge mode [] (some v) p.toValue (p.failures m.settings mode.positive v) := by
  rw [failures, evaluate, p.toList_collect, List.nil_append, map_below_nil]

/-- What is found at a place is judged like a value of its own. -/
theorem evaluate_some (mode : Mode) (place : Path) (v : Value) :
    m.evaluate mode p place (some v) = (m.failures mode p v).map (below place) := by
  rw [failures_eq_judge, evaluate, p.toList_collect, List.nil_append, judge_map_below]

end Matcher

end DocMatch
