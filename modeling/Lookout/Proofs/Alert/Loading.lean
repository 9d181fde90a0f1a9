/-
An alert file is loaded if no alert in it is at fault; otherwise the first one at fault is blamed.

An alert is at fault on account of an action that cannot be decoded, of its other parts, or of its
name, once trimmed, being the name of an alert in front of it.  The loading looks at the alerts in
order, and at each alert in this order, so what it says about the first alert at fault is settled by
that alert and those in front of it: `Blame` says what it is.  Neither of the first two kinds of
fault has to do with other alerts, and what the building checks has nothing to do with the actions.

The run over the alerts is taken apart by induction.  The invariant is that no alert in front is at
fault, and that the names seen are theirs.
-/
import Mathlib.Data.List.Forall2
import Lookout.Proofs.Alert.Building
import Lookout.Proofs.Except

namespace Lookout

namespace RawAlert

/-- The parts of an alert, with its actions decoded. -/
def parts (r : RawAlert) (actions : List Action) : AlertDefinition :=
  ⟨r.name, r.intervalSecs, r.search, r.condition, actions⟩

/-- The name that an alert is given. -/
def trimmedName (r : RawAlert) : String :=
  Text.stripBlanks r.name

/-- What an alert is in its final form: nothing of it is lost, and only the name is trimmed. -/
structure Becomes (r : RawAlert) (a : AlertDefinition) : Prop where
  name : a.name = r.trimmedName
  intervalSecs : a.intervalSecs = r.intervalSecs
  search : a.search = r.search
  condition : a.condition = r.condition
  actions : r.actions.map Action.decode = a.actions.map Except.ok

/-- All actions of an alert can be decoded. -/
def Decodable (r : RawAlert) : Prop :=
  ∀ v ∈ r.actions, ∃ a, Action.decode v = .ok a

/-- Of the actions of an alert, the one at `index` is the first that cannot be decoded. -/
structure FirstBadAction (r : RawAlert) (index : Nat) (e : ActionDecodeError) : Prop where
  bad : ∃ v, r.actions[index]? = some v ∧ Action.decode v = .error e
  before : ∀ v ∈ r.actions.take index, ∃ a, Action.decode v = .ok a

/-- The parts of an alert do not make an alert, whatever its actions are. -/
def Rejected (r : RawAlert) (e : BuildError) : Prop :=
  ∀ actions, AlertDefinition.build (r.parts actions) = .error e

/-- An alert has the name of an earlier one. -/
def Repeated (earlier : List RawAlert) (r : RawAlert) : Prop :=
  ∃ s ∈ earlier, s.trimmedName = r.trimmedName

/-- What makes an alert behind others one that cannot be loaded. -/
def AtFault (earlier : List RawAlert) (r : RawAlert) : Prop :=
  (∃ v ∈ r.actions, ∃ e, Action.decode v = .error e) ∨ (∃ e, r.Rejected e) ∨ r.Repeated earlier

/-- What is said about an alert that cannot be loaded.  Its first bad action comes before what is
wrong with its other parts, and these come before its name. -/
inductive Blame (earlier : List RawAlert) (r : RawAlert) : LoadError → Prop where
  | action {index : Nat} {e : ActionDecodeError} (h : r.FirstBadAction index e) :
      Blame earlier r (.badAction r.name index e)
  | build {e : BuildError} (hactions : r.Decodable) (h : r.Rejected e) :
      Blame earlier r (.invalid e)
  | duplicate (hactions : r.Decodable) (hparts : ∀ e, ¬ r.Rejected e) (h : r.Repeated earlier) :
      Blame earlier r (.duplicateName r.trimmedName)

/-! ### One alert -/

/-- The building does not look at the actions. -/
theorem rejected_of_build {r : RawAlert} {actions : List Action} {e : BuildError}
    (h : AlertDefinition.build (r.parts actions) = .error e) : r.Rejected e := by
  intro others
  have hfirst := AlertDefinition.build_eq_error.mp h
  exact AlertDefinition.build_eq_error.mpr ((AlertDefinition.firstLack_congr rfl others).mp hfirst)

theorem not_rejected_of_build {r : RawAlert} {actions : List Action} {a : AlertDefinition}
    (h : AlertDefinition.build (r.parts actions) = .ok a) (e : BuildError) : ¬ r.Rejected e := by
  intro hrejected
  rw [hrejected actions] at h
  cases h

/-- Actions that were decoded are what the decoding of each one gave. -/
theorem decodeActions_eq_ok {name : String} : ∀ {vs : List Value} {index : Nat}
    {actions : List Action}, decodeActions name index vs = .ok actions →
      vs.map Action.decode = actions.map Except.ok := by
  intro vs
  induction vs with
  | nil =>
      intro index actions h
      cases h
      rfl
  | cons v vs ih =>
      intro index actions h
      obtain ⟨a, ha, h⟩ := bind_eq_ok h
      obtain ⟨rest, hrest, h⟩ := bind_eq_ok h
      cases h
      exact congrArg₂ List.cons (mapError_eq_ok.mp ha) (ih hrest)

/-- Actions are not decoded because of the first one that is not. -/
theorem decodeActions_eq_error {name : String} : ∀ {vs : List Value} {first : Nat}
    {e : LoadError}, decodeActions name first vs = .error e →
      ∃ index v cause, e = .badAction name (first + index) cause ∧ vs[index]? = some v ∧
        Action.decode v = .error cause ∧ ∀ w ∈ vs.take index, ∃ a, Action.decode w = .ok a := by
  intro vs
  induction vs with
  | nil => exact fun h => by cases h
  | cons v vs ih =>
      intro first e h
      rcases bind_eq_error h with hv | ⟨a, ha, h⟩
      · obtain ⟨cause, hcause, he⟩ := mapError_eq_error hv
        exact ⟨0, v, cause, he.symm, rfl, hcause, fun w hw => by cases hw⟩
      · rcases bind_eq_error h with hrest | ⟨actions, hrest, h⟩
        · obtain ⟨index, w, cause, he, hw, hcause, hbefore⟩ := ih hrest
          refine ⟨index + 1, w, cause, ?_, hw, hcause, ?_⟩
          · rw [he, Nat.add_assoc, Nat.add_comm 1]
          · rw [List.take_succ_cons]
            exact List.forall_mem_cons.mpr ⟨⟨a, mapError_eq_ok.mp ha⟩, hbefore⟩
        · cases h

/-- A decoded list of actions has no bad action in it. -/
theorem decodable_of_map {r : RawAlert} {actions : List Action}
    (h : r.actions.map Action.decode = actions.map Except.ok) : r.Decodable := by
  intro v hv
  have hmem : Action.decode v ∈ actions.map Except.ok := h ▸ List.mem_map_of_mem hv
  obtain ⟨a, -, ha⟩ := List.mem_map.mp hmem
  exact ⟨a, ha.symm⟩

/-- An alert in its final form was neither kept from it by its actions nor by its parts. -/
theorem toDefinition_eq_ok {r : RawAlert} {a : AlertDefinition} (h : r.toDefinition = .ok a) :
    r.Becomes a ∧ r.Decodable ∧ ∀ e, ¬ r.Rejected e := by
  obtain ⟨actions, hactions, h⟩ := bind_eq_ok h
  have hbuild : AlertDefinition.build (r.parts actions) = .ok a := mapError_eq_ok.mp h
  have hmap := decodeActions_eq_ok hactions
  obtain ⟨-, rfl⟩ := AlertDefinition.build_eq_ok.mp hbuild
  exact ⟨⟨rfl, rfl, rfl, rfl, hmap⟩, decodable_of_map hmap, not_rejected_of_build hbuild⟩

/-- An alert that does not come to its final form is blamed for that, whatever is in front of it. -/
theorem blame_of_toDefinition {r : RawAlert} {e : LoadError} (h : r.toDefinition = .error e)
    (earlier : List RawAlert) : r.Blame earlier e := by
  rcases bind_eq_error h with hactions | ⟨actions, hactions, h⟩
  · obtain ⟨index, v, cause, rfl, hv, hcause, hbefore⟩ := decodeActions_eq_error hactions
    rw [Nat.zero_add]
    exact .action ⟨⟨v, hv, hcause⟩, hbefore⟩
  · obtain ⟨cause, hcause, rfl⟩ := mapError_eq_error h
    exact .build (decodable_of_map (decodeActions_eq_ok hactions)) (rejected_of_build hcause)

theorem FirstBadAction.not_decodable {r : RawAlert} {index : Nat} {e : ActionDecodeError}
    (h : r.FirstBadAction index e) : ¬ r.Decodable := by
  intro hdecodable
  obtain ⟨v, hv, hbad⟩ := h.bad
  obtain ⟨a, ha⟩ := hdecodable v (List.mem_of_getElem? hv)
  rw [hbad] at ha
  cases ha

/-- No bad action comes before the first one. -/
theorem FirstBadAction.le {r : RawAlert} {i j : Nat} {d e : ActionDecodeError}
    (hi : r.FirstBadAction i d) (hj : r.FirstBadAction j e) : i ≤ j := by
  refine Nat.le_of_not_lt fun hlt => ?_
  obtain ⟨v, hv, hbad⟩ := hj.bad
  have hmem : v ∈ r.actions.take i :=
    List.mem_of_getElem? ((List.getElem?_take_of_lt hlt).trans hv)
  obtain ⟨a, ha⟩ := hi.before v hmem
  rw [hbad] at ha
  cases ha

theorem FirstBadAction.unique {r : RawAlert} {i j : Nat} {d e : ActionDecodeError}
    (hi : r.FirstBadAction i d) (hj : r.FirstBadAction j e) : i = j ∧ d = e := by
  obtain rfl := Nat.le_antisymm (hi.le hj) (hj.le hi)
  obtain ⟨v, hv, hbad⟩ := hi.bad
  obtain ⟨w, hw, hbad'⟩ := hj.bad
  obtain rfl : v = w := Option.some.inj (hv.symm.trans hw)
  exact ⟨rfl, Except.error.inj (hbad.symm.trans hbad')⟩

theorem Rejected.unique {r : RawAlert} {d e : BuildError} (hd : r.Rejected d) (he : r.Rejected e) :
    d = e :=
  Except.error.inj ((hd []).symm.trans (he []))

/-- Only an alert at fault is blamed. -/
theorem Blame.atFault {earlier : List RawAlert} {r : RawAlert} {e : LoadError}
    (h : r.Blame earlier e) : r.AtFault earlier := by
  cases h with
  | action h =>
      obtain ⟨v, hv, hbad⟩ := h.bad
      exact Or.inl ⟨v, List.mem_of_getElem? hv, _, hbad⟩
  | build _ h => exact Or.inr (Or.inl ⟨_, h⟩)
  | duplicate _ _ h => exact Or.inr (Or.inr h)

theorem not_atFault {earlier : List RawAlert} {r : RawAlert} (hactions : r.Decodable)
    (hparts : ∀ e, ¬ r.Rejected e) (hname : ¬ r.Repeated earlier) : ¬ r.AtFault earlier := by
  rintro (⟨v, hv, e, hbad⟩ | ⟨e, hrejected⟩ | hrepeated)
  · obtain ⟨a, ha⟩ := hactions v hv
    rw [hbad] at ha
    cases ha
  · exact hparts e hrejected
  · exact hname hrepeated

/-- There is one thing to say about an alert at fault. -/
theorem Blame.unique {earlier : List RawAlert} {r : RawAlert} {d e : LoadError}
    (hd : r.Blame earlier d) (he : r.Blame earlier e) : d = e := by
  cases hd with
  | action h =>
      cases he with
      | action h' =>
          obtain ⟨rfl, rfl⟩ := h.unique h'
          rfl
      | build hactions _ => exact absurd hactions h.not_decodable
      | duplicate hactions _ _ => exact absurd hactions h.not_decodable
  | build hactions h =>
      cases he with
      | action h' => exact absurd hactions h'.not_decodable
      | build _ h' => rw [h.unique h']
      | duplicate _ hparts _ => exact absurd h (hparts _)
  | duplicate hactions hparts _ =>
      cases he with
      | action h' => exact absurd hactions h'.not_decodable
      | build _ h' => exact absurd h' (hparts _)
      | duplicate _ _ _ => rfl

/-- An alert is blamed for what it says, not for the form of the file. -/
theorem Blame.kind {earlier : List RawAlert} {r : RawAlert} {e : LoadError}
    (h : r.Blame earlier e) : e.kind = .decode := by
  cases h with
  | action _ => rfl
  | build _ _ => rfl
  | duplicate _ _ _ => rfl

end RawAlert

/-! ### One alert after the other -/

/-- The alert at a place cannot be loaded behind those in front of it. -/
def Offending (raws : List RawAlert) (i : Nat) : Prop :=
  ∃ r, raws[i]? = some r ∧ r.AtFault (raws.take i)

/-- What is said about the alert at a place. -/
def Blamed (raws : List RawAlert) (i : Nat) (e : LoadError) : Prop :=
  ∃ r, raws[i]? = some r ∧ r.Blame (raws.take i) e

/-- The first alert that cannot be loaded. -/
structure FirstOffending (raws : List RawAlert) (i : Nat) : Prop where
  offending : Offending raws i
  before : ∀ j < i, ¬ Offending raws j

theorem Blamed.offending {raws : List RawAlert} {i : Nat} {e : LoadError} (h : Blamed raws i e) :
    Offending raws i := by
  obtain ⟨r, hr, hblame⟩ := h
  exact ⟨r, hr, hblame.atFault⟩

theorem Blamed.unique {raws : List RawAlert} {i : Nat} {d e : LoadError} (hd : Blamed raws i d)
    (he : Blamed raws i e) : d = e := by
  obtain ⟨r, hr, hd⟩ := hd
  obtain ⟨s, hs, he⟩ := he
  obtain rfl : r = s := Option.some.inj (hr.symm.trans hs)
  exact hd.unique he

theorem FirstOffending.unique {raws : List RawAlert} {i j : Nat} (hi : FirstOffending raws i)
    (hj : FirstOffending raws j) : i = j :=
  Nat.le_antisymm (Nat.le_of_not_lt fun h => hi.before j h hj.offending)
    (Nat.le_of_not_lt fun h => hj.before i h hi.offending)

section Same

variable {raws others : List RawAlert} {i : Nat} (hsame : others.take (i + 1) = raws.take (i + 1))
include hsame

theorem getElem?_of_take {j : Nat} (hj : j ≤ i) : others[j]? = raws[j]? := by
  rw [← List.getElem?_take_of_lt (Nat.lt_succ_of_le hj), hsame,
    List.getElem?_take_of_lt (Nat.lt_succ_of_le hj)]

theorem take_of_take {j : Nat} (hj : j ≤ i) : others.take j = raws.take j := by
  have htake := congrArg (List.take j) hsame
  rw [List.take_take, List.take_take, Nat.min_eq_left (Nat.le_succ_of_le hj)] at htake
  exact htake

/-- Whether an alert is at fault has nothing to do with those behind it. -/
theorem offending_of_take {j : Nat} (hj : j ≤ i) : Offending others j ↔ Offending raws j := by
  unfold Offending
  rw [getElem?_of_take hsame hj, take_of_take hsame hj]

theorem blamed_of_take {e : LoadError} : Blamed others i e ↔ Blamed raws i e := by
  unfold Blamed
  rw [getElem?_of_take hsame (Nat.le_refl i), take_of_take hsame (Nat.le_refl i)]

theorem firstOffending_of_take (h : FirstOffending raws i) : FirstOffending others i where
  offending := (offending_of_take hsame (Nat.le_refl i)).mpr h.offending
  before j hj := fun hoffending =>
    h.before j hj ((offending_of_take hsame (Nat.le_of_lt hj)).mp hoffending)

end Same

/-- The names that have been seen behind some alerts. -/
def seenNames (before : List RawAlert) : List String :=
  (before.map RawAlert.trimmedName).reverse

theorem mem_seenNames {before : List RawAlert} {r : RawAlert} :
    (seenNames before).contains r.trimmedName = true ↔ r.Repeated before := by
  unfold seenNames RawAlert.Repeated
  rw [List.contains_iff_mem, List.mem_reverse, List.mem_map]

theorem seenNames_append (before : List RawAlert) (r : RawAlert) :
    seenNames (before ++ [r]) = r.trimmedName :: seenNames before := by
  unfold seenNames
  rw [List.map_append, List.reverse_append]
  rfl

variable {before rs : List RawAlert} {r : RawAlert}

/-- The head of a list of alerts is loaded if it is not at fault. -/
theorem buildAlerts_cons_ok {alerts : List AlertDefinition}
    (h : buildAlerts (seenNames before) (r :: rs) = .ok alerts) :
    ∃ a as, alerts = a :: as ∧ r.Becomes a ∧ ¬ r.AtFault before ∧
      buildAlerts (seenNames (before ++ [r])) rs = .ok as := by
  obtain ⟨a, ha, h⟩ := bind_eq_ok h
  obtain ⟨hbecomes, hactions, hparts⟩ := RawAlert.toDefinition_eq_ok ha
  rw [hbecomes.name] at h
  split at h
  · cases h
  · case isFalse hname =>
    obtain ⟨as, has, h⟩ := bind_eq_ok h
    cases h
    rw [seenNames_append]
    exact ⟨a, as, rfl, hbecomes,
      RawAlert.not_atFault hactions hparts fun h => hname (mem_seenNames.mpr h), has⟩

/-- A list of alerts is not loaded because of its head or because of those behind it. -/
theorem buildAlerts_cons_error {e : LoadError}
    (h : buildAlerts (seenNames before) (r :: rs) = .error e) :
    r.Blame before e ∨
      ¬ r.AtFault before ∧ buildAlerts (seenNames (before ++ [r])) rs = .error e := by
  rcases bind_eq_error h with hr | ⟨a, ha, h⟩
  · exact Or.inl (RawAlert.blame_of_toDefinition hr before)
  · obtain ⟨hbecomes, hactions, hparts⟩ := RawAlert.toDefinition_eq_ok ha
    rw [hbecomes.name] at h
    split at h
    · case isTrue hname =>
      cases h
      exact Or.inl (.duplicate hactions hparts (mem_seenNames.mp hname))
    · case isFalse hname =>
      have hfault := RawAlert.not_atFault hactions hparts fun h => hname (mem_seenNames.mpr h)
      rw [seenNames_append]
      rcases bind_eq_error h with hrest | ⟨as, -, h⟩
      · exact Or.inr ⟨hfault, hrest⟩
      · cases h

/-- An alert behind others stands in the list at the place that is their number. -/
theorem getElem?_take_append (before : List RawAlert) (r : RawAlert) (rs : List RawAlert) :
    (before ++ r :: rs)[before.length]? = some r ∧
      (before ++ r :: rs).take before.length = before := by
  constructor
  · rw [List.getElem?_append_right (Nat.le_refl _), Nat.sub_self]
    rfl
  · exact List.take_left

theorem offending_length : Offending (before ++ r :: rs) before.length ↔ r.AtFault before := by
  obtain ⟨hget, htake⟩ := getElem?_take_append before r rs
  unfold Offending
  rw [hget, htake]
  constructor
  · rintro ⟨s, hs, hfault⟩
    rwa [Option.some.inj hs]
  · exact fun hfault => ⟨r, rfl, hfault⟩

theorem blamed_length {e : LoadError} (h : r.Blame before e) :
    Blamed (before ++ r :: rs) before.length e := by
  obtain ⟨hget, htake⟩ := getElem?_take_append before r rs
  refine ⟨r, hget, ?_⟩
  rw [htake]
  exact h

/-- When alerts are loaded, none of them is at fault, and each of them is there. -/
theorem buildAlerts_ok : ∀ (rs before : List RawAlert) (alerts : List AlertDefinition),
    buildAlerts (seenNames before) rs = .ok alerts →
      List.Forall₂ RawAlert.Becomes rs alerts ∧
      ∀ i, before.length ≤ i → ¬ Offending (before ++ rs) i := by
  intro rs
  induction rs with
  | nil =>
      intro before alerts h
      cases h
      refine ⟨.nil, fun i hi hoffending => ?_⟩
      obtain ⟨s, hs, -⟩ := hoffending
      rw [List.append_nil, List.getElem?_eq_none hi] at hs
      cases hs
  | cons r rs ih =>
      intro before alerts h
      obtain ⟨a, as, rfl, hbecomes, hfault, hrest⟩ := buildAlerts_cons_ok h
      obtain ⟨hall, hnone⟩ := ih (before ++ [r]) as hrest
      rw [List.append_assoc, List.length_append] at hnone
      refine ⟨.cons hbecomes hall, fun i hi => ?_⟩
      rcases Nat.eq_or_lt_of_le hi with rfl | hlt
      · exact fun h => hfault (offending_length.mp h)
      · exact hnone i hlt

/-- When alerts are not loaded, the first of them that is at fault is blamed. -/
theorem buildAlerts_error : ∀ (rs before : List RawAlert) (e : LoadError),
    buildAlerts (seenNames before) rs = .error e →
      ∃ i, Blamed (before ++ rs) i e ∧
        ∀ j, before.length ≤ j → j < i → ¬ Offending (before ++ rs) j := by
  intro rs
  induction rs with
  | nil => exact fun before e h => by cases h
  | cons r rs ih =>
      intro before e h
      rcases buildAlerts_cons_error h with hblame | ⟨hfault, hrest⟩
      · exact ⟨before.length, blamed_length hblame, fun j hj hlt => by omega⟩
      · obtain ⟨i, hblamed, hnone⟩ := ih (before ++ [r]) e hrest
        rw [List.append_assoc] at hblamed hnone
        rw [List.length_append] at hnone
        refine ⟨i, hblamed, fun j hj hlt => ?_⟩
        rcases Nat.eq_or_lt_of_le hj with rfl | hbeyond
        · exact fun h => hfault (offending_length.mp h)
        · exact hnone j hbeyond hlt

/-! ### What was loaded -/

/-- Every alert of a list that was built is the final form of an entry of the list. -/
theorem mem_buildAlerts : ∀ {rs : List RawAlert} {seen : List String}
    {alerts : List AlertDefinition}, buildAlerts seen rs = .ok alerts →
      ∀ a ∈ alerts, ∃ r : RawAlert, r.toDefinition = .ok a := by
  intro rs
  induction rs with
  | nil =>
      intro seen alerts h
      cases h
      exact fun a ha => by cases ha
  | cons r rs ih =>
      intro seen alerts h
      obtain ⟨b, hb, h⟩ := bind_eq_ok h
      split at h
      · cases h
      · obtain ⟨rest, hrest, h⟩ := bind_eq_ok h
        cases h
        exact List.forall_mem_cons.mpr ⟨⟨r, hb⟩, ih hrest⟩

/-- The names of alerts none of which is at fault are pairwise distinct. -/
theorem nodup_trimmedName {raws : List RawAlert} (h : ∀ i, ¬ Offending raws i) :
    (raws.map RawAlert.trimmedName).Nodup := by
  refine List.pairwise_iff_getElem.mpr fun i j hi hj hlt heq => ?_
  rw [List.length_map] at hi hj
  rw [List.getElem_map, List.getElem_map] at heq
  have hmem : raws[i] ∈ raws.take j :=
    List.mem_of_getElem? ((List.getElem?_take_of_lt hlt).trans (List.getElem?_eq_getElem hi))
  exact h j ⟨raws[j], List.getElem?_eq_getElem hj, Or.inr (Or.inr ⟨raws[i], hmem, heq⟩)⟩

theorem map_name {raws : List RawAlert} {alerts : List AlertDefinition}
    (h : List.Forall₂ RawAlert.Becomes raws alerts) :
    alerts.map (·.name) = raws.map RawAlert.trimmedName := by
  induction h with
  | nil => rfl
  | cons hbecomes _ ih => exact congrArg₂ List.cons hbecomes.name ih

/-- Among alerts of distinct names each one is found by its name. -/
theorem findAlert?_name : ∀ {alerts : List AlertDefinition}, (alerts.map (·.name)).Nodup →
    ∀ a ∈ alerts, findAlert? alerts a.name = some a := by
  intro alerts
  induction alerts with
  | nil => exact fun _ a ha => by cases ha
  | cons b alerts ih =>
      intro hnodup a ha
      rw [List.map_cons, List.nodup_cons] at hnodup
      unfold findAlert?
      rw [List.find?_cons]
      rcases List.mem_cons.mp ha with rfl | ha
      · rw [decide_eq_true rfl]
      · have hne : b.name ≠ a.name := fun heq =>
          hnodup.1 (heq ▸ List.mem_map_of_mem (f := AlertDefinition.name) ha)
        rw [decide_eq_false hne]
        exact ih hnodup.2 a ha

/-! ### Loading a file -/

variable {text : String} {raws : List RawAlert}

theorem loadAlerts_of_ofText (h : RawAlert.ofText text = .ok raws) :
    loadAlerts text = buildAlerts (seenNames []) raws := by
  unfold loadAlerts
  rw [h]
  rfl

/-- Every alert that was loaded is the final form of an entry. -/
theorem mem_loadAlerts {alerts : List AlertDefinition} (h : loadAlerts text = .ok alerts)
    {a : AlertDefinition} (ha : a ∈ alerts) : ∃ r : RawAlert, r.toDefinition = .ok a := by
  obtain ⟨raws, -, hbuild⟩ := bind_eq_ok h
  exact mem_buildAlerts hbuild a ha

theorem not_offending_of_ok (h : RawAlert.ofText text = .ok raws) {alerts : List AlertDefinition}
    (hload : loadAlerts text = .ok alerts) (i : Nat) : ¬ Offending raws i := by
  rw [loadAlerts_of_ofText h] at hload
  exact (buildAlerts_ok raws [] alerts hload).2 i (Nat.zero_le i)

/-- What is said when a file is not loaded is said about its first alert that is at fault. -/
theorem firstOffending_of_error (h : RawAlert.ofText text = .ok raws) {e : LoadError}
    (hload : loadAlerts text = .error e) : ∃ i, FirstOffending raws i ∧ Blamed raws i e := by
  rw [loadAlerts_of_ofText h] at hload
  obtain ⟨i, hblamed, hnone⟩ := buildAlerts_error raws [] e hload
  exact ⟨i, ⟨hblamed.offending, fun j hj => hnone j (Nat.zero_le j) hj⟩, hblamed⟩

theorem blamed_of_firstOffending (h : RawAlert.ofText text = .ok raws) {i : Nat}
    (hfirst : FirstOffending raws i) : ∃ e, loadAlerts text = .error e ∧ Blamed raws i e := by
  cases hload : loadAlerts text with
  | ok alerts => exact absurd hfirst.offending (not_offending_of_ok h hload i)
  | error e =>
      obtain ⟨j, hj, hblamed⟩ := firstOffending_of_error h hload
      rw [hfirst.unique hj]
      exact ⟨e, rfl, hblamed⟩

/-- **A file is loaded exactly if no alert in it is at fault, and otherwise the first one at fault
is blamed.**  What is loaded are all alerts in the order of the file, under names that are pairwise
distinct.  What is said when it is not has nothing to do with the alerts behind the one blamed. -/
theorem loadAlerts_outcome (h : RawAlert.ofText text = .ok raws) :
    ((∃ alerts, loadAlerts text = .ok alerts) ↔ ∀ i, ¬ Offending raws i) ∧
    (∀ alerts, loadAlerts text = .ok alerts →
      List.Forall₂ RawAlert.Becomes raws alerts ∧ (alerts.map (·.name)).Nodup ∧
        ∀ a ∈ alerts, findAlert? alerts a.name = some a) ∧
    ∀ i, FirstOffending raws i →
      (∃ e, loadAlerts text = .error e ∧ e.kind = .decode ∧ Blamed raws i e) ∧
      ∀ text' raws', RawAlert.ofText text' = .ok raws' →
        raws'.take (i + 1) = raws.take (i + 1) → loadAlerts text' = loadAlerts text := by
  refine ⟨⟨?_, fun hnone => ?_⟩, fun alerts hload => ?_, fun i hfirst => ?_⟩
  · rintro ⟨alerts, hload⟩
    exact not_offending_of_ok h hload
  · cases hload : loadAlerts text with
    | ok alerts => exact ⟨alerts, rfl⟩
    | error e =>
        obtain ⟨i, hfirst, -⟩ := firstOffending_of_error h hload
        exact absurd hfirst.offending (hnone i)
  · have hnone := not_offending_of_ok h hload
    rw [loadAlerts_of_ofText h] at hload
    have hall := (buildAlerts_ok raws [] alerts hload).1
    have hnodup : (alerts.map (·.name)).Nodup := by
      rw [map_name hall]
      exact nodup_trimmedName hnone
    exact ⟨hall, hnodup, findAlert?_name hnodup⟩
  · obtain ⟨e, hload, hblamed⟩ := blamed_of_firstOffending h hfirst
    refine ⟨⟨e, hload, ?_, hblamed⟩, fun text' raws' h' hsame => ?_⟩
    · obtain ⟨r, -, hblame⟩ := hblamed
      exact hblame.kind
    · obtain ⟨e', hload', hblamed'⟩ :=
        blamed_of_firstOffending h' (firstOffending_of_take hsame hfirst)
      rw [hload, hload', hblamed.unique ((blamed_of_take hsame).mp hblamed')]

/-- Two alerts, the names of which differ only in the blanks around them. -/
def namesakes : String :=
  "- name: ' a'\n  search:\n    index: x\n  condition: '1'\n"
    ++ "- name: a\n  search:\n    index: y\n  condition: '1'\n"

theorem loadAlerts_namesakes : ∃ raws e, RawAlert.ofText namesakes = .ok raws ∧
    FirstOffending raws 1 ∧ loadAlerts namesakes = .error e ∧ e.kind = .decode ∧
    Blamed raws 1 e := by
  have hshown : (RawAlert.ofText namesakes).toOption.map (fun raws =>
      (raws.length, (buildAlerts [] (raws.take 1)).isOk, (buildAlerts [] raws).isOk))
      = some (2, true, false) := by
    decide +kernel
  obtain ⟨raws, hraws, hshown⟩ := eq_ok_of_toOption_map hshown
  simp only [Prod.mk.injEq] at hshown
  obtain ⟨hlength, hfirst, hboth⟩ := hshown
  have hload : ∃ e, loadAlerts namesakes = .error e := by
    rw [loadAlerts_of_ofText hraws]
    cases hbuild : buildAlerts (seenNames []) raws with
    | ok alerts =>
        have hfound : buildAlerts [] raws = .ok alerts := hbuild
        rw [hfound] at hboth
        cases hboth
    | error e => exact ⟨e, rfl⟩
  have hzero : ¬ Offending raws 0 := by
    cases hbuild : buildAlerts [] (raws.take 1) with
    | ok alerts =>
        have hsame : raws.take (0 + 1) = (raws.take 1).take (0 + 1) := by
          rw [List.take_take]
          rfl
        rw [offending_of_take hsame (Nat.le_refl 0)]
        exact (buildAlerts_ok (raws.take 1) [] alerts hbuild).2 0 (Nat.le_refl 0)
    | error e =>
        rw [hbuild] at hfirst
        cases hfirst
  obtain ⟨e, hload⟩ := hload
  obtain ⟨i, hfirst, hblamed⟩ := firstOffending_of_error hraws hload
  have hi : i = 1 := by
    obtain ⟨r, hr, -⟩ := hblamed
    have hlt := (List.getElem?_eq_some_iff.mp hr).1
    have hne : i ≠ 0 := fun h => hzero (h ▸ hfirst.offending)
    omega
  subst hi
  obtain ⟨e, hload, hkind, hblamed⟩ := ((loadAlerts_outcome hraws).2.2 1 hfirst).1
  exact ⟨raws, e, hraws, hfirst, hload, hkind, hblamed⟩

end Lookout
