import FancyLife.Models
import FancyLife.ShopVC
import FancyLife.Lib.EventMachine

/-! # The location on the home page

HomeVC looks up the address of the device. While a reverse geocode is running,
`isPerformingReverseGeocoding` keeps a second one from starting, and the update
that came in between is not looked up later. The label is set by `updateAddress`,
in an update before the flag is raised.
-/

namespace FancyLife

structure CLPlacemark where
  subThoroughfare : Option String
  thoroughfare : Option String
  locality : Option String
  administrativeArea : Option String
  postalCode : Option String
  country : Option String
deriving DecidableEq

inductive CLAuthorizationStatus where
  | notDetermined
  | restricted
  | denied
  | authorizedAlways
  | authorizedWhenInUse
  | unknown
deriving DecidableEq

/-- The authorized statuses. -/
def CLAuthorizationStatus.isAuthorized : CLAuthorizationStatus → Bool
  | .authorizedAlways | .authorizedWhenInUse => true
  | _ => false

/-- The location handling of the screen. `label` is the text last passed to
`homeLocationVC.setLocation`, and `geocoding` are the locations whose reverse
geocode has not completed. -/
structure HomeVC where
  location : Option CLLocation
  placemark : Option CLPlacemark
  isPerformingReverseGeocoding : Bool
  lastGeocodingError : Option String
  label : Option String
  geocoding : List CLLocation
  alerts : List FLAlert
  updatingLocation : Bool

namespace HomeVC

inductive Event where
  | didUpdateLocations (locations : List CLLocation)
  | didChangeAuthorization (status : CLAuthorizationStatus)
  | geocoded (i : Nat) (placemarks : Option (List CLPlacemark)) (error : Option String)

/-- `if let text = text { address += text + separator }`. -/
def appendPart (address : String) (text : Option String) (separator : String) : String :=
  match text with
  | some text => address ++ text ++ separator
  | none => address

/-- `getAddress(from:)`. -/
def getAddress (placemark : CLPlacemark) : String :=
  let address := appendPart "" placemark.subThoroughfare " "
  let address := appendPart address placemark.thoroughfare " "
  let address := appendPart address placemark.locality " "
  let address := appendPart address placemark.administrativeArea " "
  let address := appendPart address placemark.postalCode " "
  appendPart address placemark.country ""

/-- The text that `updateAddress()` chooses. -/
def addressText (vc : HomeVC) : String :=
  if vc.location.isSome then
    match vc.placemark with
    | some placemark => getAddress placemark
    | none =>
        if vc.isPerformingReverseGeocoding then "Searching for address.."
        else if vc.lastGeocodingError.isSome then "Error finding a valid address"
        else "Address Not Found"
  else "Location is unavailable..."

/-- `updateAddress()`. -/
def updateAddress (vc : HomeVC) : HomeVC := { vc with label := some vc.addressText }

def present (vc : HomeVC) (title message : String) : HomeVC :=
  { vc with alerts := vc.alerts ++ [{ title, message, buttonTitle := "确认" }] }

/-- `checkLocationAuthorization()`. -/
def checkLocationAuthorization (vc : HomeVC) : CLAuthorizationStatus → HomeVC
  | .notDetermined => vc
  | .denied | .restricted =>
      vc.present "未允许定位服务" "请前往系统设置允许本应用取用位置, 来享受更好的体验吧！😄"
  | .authorizedWhenInUse | .authorizedAlways =>
      { vc with updatingLocation := true }.updateAddress
  | .unknown => vc.present "授权获取位置错误" "无法获取您的位置授权"

/-- `locationManager(_:didUpdateLocations:)`; `here` is `locations.last!`. -/
def didUpdate (vc : HomeVC) (here : CLLocation) : HomeVC :=
  let vc := { vc with location := some here }.updateAddress
  if vc.isPerformingReverseGeocoding then vc
  else { vc with isPerformingReverseGeocoding := true, geocoding := vc.geocoding ++ [here] }

/-- The placemark that a completed reverse geocode brings: the last one, if there
is no error. -/
def answeredPlacemark (placemarks : Option (List CLPlacemark)) (error : Option String) :
    Option CLPlacemark :=
  if error.isNone then placemarks.bind List.getLast? else none

/-- The closure of `reverseGeocodeLocation`. -/
def didGeocode (vc : HomeVC) (placemarks : Option (List CLPlacemark)) (error : Option String) :
    HomeVC :=
  updateAddress
    { vc with
      lastGeocodingError := error
      placemark := answeredPlacemark placemarks error
      isPerformingReverseGeocoding := false }

/-- One event. Core Location reports at least one location at a time. -/
def step (vc : HomeVC) : Event → Option HomeVC
  | .didUpdateLocations locations => locations.getLast?.map vc.didUpdate
  | .didChangeAuthorization status => some (vc.checkLocationAuthorization status)
  | .geocoded i placemarks error =>
      (vc.geocoding[i]?).map fun _ =>
        { vc with geocoding := vc.geocoding.eraseIdx i }.didGeocode placemarks error

/-- `checkLocationSevices()` in `viewDidLoad()`. -/
def viewDidLoad (locationServicesEnabled : Bool) (status : CLAuthorizationStatus) : HomeVC :=
  let vc : HomeVC := ⟨none, none, false, none, none, [], [], false⟩
  if locationServicesEnabled then vc.checkLocationAuthorization status
  else vc.present "未开启定位服务" "请前往系统设置开启定位服务，来获取更好体验吧！😄"

def machine : EventMachine HomeVC Event where
  init vc := ∃ enabled status, vc = viewDidLoad enabled status
  step := step

/-! ## The label -/

/-- The label shows what `updateAddress` would choose now. -/
def Coherent (vc : HomeVC) : Prop := vc.label = some vc.addressText

theorem updateAddress_coherent (vc : HomeVC) : vc.updateAddress.Coherent := rfl

/-- A change of the authorization, if there is one, is to an authorized status. -/
def Authorized (e : Event) : Prop :=
  ∀ status, e = .didChangeAuthorization status → status.isAuthorized = true

/-- An update finds a geocode running, or a placemark that is shown in any case. -/
def Settled (vc : HomeVC) (e : Event) : Prop :=
  ∀ locations, e = .didUpdateLocations locations →
    vc.isPerformingReverseGeocoding = true ∨ vc.placemark.isSome

theorem checkLocationAuthorization_of_authorized (vc : HomeVC) {status : CLAuthorizationStatus}
    (h : status.isAuthorized = true) :
    vc.checkLocationAuthorization status = updateAddress { vc with updatingLocation := true } := by
  cases status with
  | authorizedAlways => rfl
  | authorizedWhenInUse => rfl
  | notDetermined => cases h
  | restricted => cases h
  | denied => cases h
  | unknown => cases h

/-- After an update the label misses the flag that has been raised meanwhile,
unless it shows a placemark. -/
theorem didUpdate_coherent_iff (vc : HomeVC) (here : CLLocation) :
    (vc.didUpdate here).Coherent ↔
      vc.isPerformingReverseGeocoding = true ∨ vc.placemark.isSome := by
  unfold didUpdate
  by_cases hflag : vc.isPerformingReverseGeocoding = true
  · have hcoherent := updateAddress_coherent { vc with location := some here }
    simp only [updateAddress, hflag, if_true] at hcoherent ⊢
    exact iff_of_true hcoherent (Or.inl trivial)
  · have hfalse : vc.isPerformingReverseGeocoding = false := by simpa using hflag
    cases hplacemark : vc.placemark with
    | some placemark => simp [updateAddress, Coherent, addressText, hfalse]
    | none =>
        simp only [updateAddress, Coherent, addressText, hfalse]
        cases vc.lastGeocodingError <;> simp

/-- Step lemma: after an event the label is coherent if and only if the event was
settled. -/
theorem coherent_step_iff {vc vc' : HomeVC} {e : Event} (hstep : machine.step vc e = some vc')
    (hauth : Authorized e) : vc'.Coherent ↔ vc.Settled e := by
  cases e with
  | didUpdateLocations locations =>
      rcases Option.map_eq_some_iff.1 hstep with ⟨here, -, rfl⟩
      rw [didUpdate_coherent_iff]
      constructor
      · intro h _ _
        exact h
      · intro h
        exact h locations rfl
  | didChangeAuthorization status =>
      obtain rfl := Option.some.inj hstep
      rw [checkLocationAuthorization_of_authorized vc (hauth status rfl)]
      exact iff_of_true (updateAddress_coherent _) nofun
  | geocoded i placemarks error =>
      rcases Option.map_eq_some_iff.1 hstep with ⟨asked, -, rfl⟩
      exact iff_of_true (updateAddress_coherent _) nofun

/-- In a run whose authorization changes are to authorized statuses, the label is
coherent after a handler exactly when its event was settled, and so after every
handler exactly when all events were. -/
theorem label_coherent_iff (enabled : Bool) (status : CLAuthorizationStatus) (es : List Event)
    (hauth : ∀ e ∈ es, Authorized e) :
    (∀ before e after vc vc', es = before ++ e :: after →
      machine.run (viewDidLoad enabled status) before = some vc → machine.step vc e = some vc' →
      (vc'.Coherent ↔ vc.Settled e)) ∧
    (machine.Along (fun _ _ vc' => vc'.Coherent) (viewDidLoad enabled status) es ↔
      machine.Along (fun vc e _ => vc.Settled e) (viewDidLoad enabled status) es) := by
  have halong : machine.Along (fun _ e _ => Authorized e) (viewDidLoad enabled status) es :=
    EventMachine.along_of_forall hauth
  constructor
  · intro before e after vc vc' hes _ hstep
    exact coherent_step_iff hstep (hauth e (by simp [hes]))
  · refine @EventMachine.Along.congr _ _ machine _ _ _ (fun _ => True) ?_ ?_ _ _ halong trivial
    · intro vc e vc' hstep he _
      exact coherent_step_iff hstep he
    · intros
      trivial

/-- A placemark in the city. -/
def cityPlacemark : CLPlacemark := ⟨some "11", some "Star Alley", some "Melbourne", some "VIC",
  some "3000", some "Australia"⟩

/-- The first update shows that no address was found, and only the next one, which
finds the geocode running, that it is being searched. -/
theorem first_update_not_found :
    ∃ vc, machine.run (viewDidLoad true .authorizedWhenInUse)
        [.didUpdateLocations [⟨.finite 1, .finite 0⟩]] = some vc ∧
      vc.label = some "Address Not Found" ∧ vc.addressText = "Searching for address.." ∧
      ¬ vc.Coherent := by
  refine ⟨_, rfl, rfl, rfl, ?_⟩
  intro hcoherent
  have htext := Option.some.inj hcoherent
  revert htext
  decide

/-- Once an address is on the label, an update leaves it there. -/
theorem label_coherent_with_address :
    ∃ vc, machine.run (viewDidLoad true .authorizedWhenInUse)
        [.didUpdateLocations [⟨.finite 1, .finite 0⟩], .geocoded 0 (some [cityPlacemark]) none,
          .didUpdateLocations [⟨.finite 2, .finite 0⟩]] = some vc ∧
      vc.isPerformingReverseGeocoding = true ∧ vc.Coherent := by
  refine ⟨_, rfl, rfl, ?_⟩
  have hauth : ∀ e ∈ [Event.didUpdateLocations [⟨.finite 1, .finite 0⟩],
      .geocoded 0 (some [cityPlacemark]) none, .didUpdateLocations [⟨.finite 2, .finite 0⟩]],
      Authorized e := by
    intro e he status hstatus
    simp [hstatus] at he
  have hiff := (label_coherent_iff true .authorizedWhenInUse _ hauth).1
    [.didUpdateLocations [⟨.finite 1, .finite 0⟩], .geocoded 0 (some [cityPlacemark]) none]
    (.didUpdateLocations [⟨.finite 2, .finite 0⟩]) [] _ _ rfl rfl rfl
  exact hiff.2 fun _ _ => Or.inr rfl

/-! ## The placemark -/

/-- The screen with the reverse geocodes that have completed, oldest first: the
location that was asked for and the placemark that came back. -/
structure Logged where
  vc : HomeVC
  answers : List (CLLocation × Option CLPlacemark)

/-- The completed geocodes that an event adds. -/
def completed (vc : HomeVC) : Event → List (CLLocation × Option CLPlacemark)
  | .geocoded i placemarks error =>
      (vc.geocoding[i]?).toList.map fun asked => (asked, answeredPlacemark placemarks error)
  | _ => []

/-- The machine of the screen, with the log. -/
def logged : EventMachine Logged Event where
  init s := ∃ enabled status, s = ⟨viewDidLoad enabled status, []⟩
  step s e := (s.vc.step e).map fun vc => ⟨vc, s.answers ++ completed s.vc e⟩

/-- At most one geocode is running, and when none is, the placemark is the answer
for the current location. -/
structure Fresh (s : Logged) : Prop where
  single : s.vc.geocoding.length ≤ 1
  current : s.vc.geocoding = [] → ∀ placemark, s.vc.placemark = some placemark →
    ∃ here, s.vc.location = some here ∧ s.answers.getLast? = some (here, some placemark)

/-- A geocode that brings a placemark finds the location it was started for. -/
def Timely (vc : HomeVC) : Event → Prop
  | .geocoded i placemarks error =>
      (answeredPlacemark placemarks error).isSome → vc.geocoding[i]? = vc.location
  | _ => True

/-- The flag says whether a geocode is running. -/
def SingleFlight (vc : HomeVC) : Prop :=
  (vc.isPerformingReverseGeocoding = true ∧ ∃ asked, vc.geocoding = [asked]) ∨
    (vc.isPerformingReverseGeocoding = false ∧ vc.geocoding = [])

theorem SingleFlight.length_le {vc : HomeVC} (h : vc.SingleFlight) : vc.geocoding.length ≤ 1 := by
  rcases h with ⟨-, asked, h⟩ | ⟨-, h⟩ <;> simp [h]

/-- A change of the authorization leaves the geocoding as it is. -/
theorem checkLocationAuthorization_frame (vc : HomeVC) (status : CLAuthorizationStatus) :
    (vc.checkLocationAuthorization status).isPerformingReverseGeocoding =
        vc.isPerformingReverseGeocoding ∧
      (vc.checkLocationAuthorization status).geocoding = vc.geocoding ∧
      (vc.checkLocationAuthorization status).location = vc.location ∧
      (vc.checkLocationAuthorization status).placemark = vc.placemark := by
  cases status <;> exact ⟨rfl, rfl, rfl, rfl⟩

/-- After an update a geocode is running. -/
theorem SingleFlight.didUpdate {vc : HomeVC} (h : vc.SingleFlight) (here : CLLocation) :
    (vc.didUpdate here).SingleFlight ∧ (vc.didUpdate here).geocoding ≠ [] := by
  unfold HomeVC.didUpdate
  rcases h with ⟨hflag, asked, hgeocoding⟩ | ⟨hflag, hgeocoding⟩
  · simp only [updateAddress, hflag, if_true]
    exact ⟨Or.inl ⟨rfl, asked, hgeocoding⟩, by simp [hgeocoding]⟩
  · simp only [updateAddress, hflag, hgeocoding, Bool.false_eq_true, if_false, List.nil_append]
    exact ⟨Or.inl ⟨rfl, here, rfl⟩, List.cons_ne_nil _ _⟩

/-- The invariant of the log. -/
structure Tracked (s : Logged) : Prop where
  singleFlight : s.vc.SingleFlight
  fresh : Fresh s

/-- Step lemma: a timely event keeps the placemark fresh, and only such an event. -/
theorem Tracked.step {s s' : Logged} {e : Event} (hstep : logged.step s e = some s')
    (h : Tracked s) : s'.vc.SingleFlight ∧ (Fresh s' ↔ s.vc.Timely e) := by
  rcases Option.map_eq_some_iff.1 hstep with ⟨vc', hvc', rfl⟩
  cases e with
  | didUpdateLocations locations =>
      rcases Option.map_eq_some_iff.1 hvc' with ⟨here, -, rfl⟩
      rcases h.singleFlight.didUpdate here with ⟨hflight, hrunning⟩
      refine ⟨hflight, iff_of_true ⟨hflight.length_le, ?_⟩ trivial⟩
      intro hnone
      exact absurd hnone hrunning
  | didChangeAuthorization status =>
      obtain rfl := Option.some.inj hvc'
      rcases checkLocationAuthorization_frame s.vc status with
        ⟨hflag, hgeocoding, hlocation, hplacemark⟩
      constructor
      · unfold SingleFlight
        rw [hflag, hgeocoding]
        exact h.singleFlight
      · refine iff_of_true ⟨?_, ?_⟩ trivial
        · show (s.vc.checkLocationAuthorization status).geocoding.length ≤ 1
          rw [hgeocoding]
          exact h.fresh.single
        · simp only [hgeocoding, hlocation, hplacemark, completed, List.append_nil]
          exact h.fresh.current
  | geocoded i placemarks error =>
      rcases Option.map_eq_some_iff.1 hvc' with ⟨asked, hasked, rfl⟩
      -- the only geocode has completed
      have hone : s.vc.geocoding = [asked] ∧ i = 0 := by
        rcases h.singleFlight with ⟨-, asked', hgeocoding⟩ | ⟨-, hgeocoding⟩
        · rw [hgeocoding] at hasked ⊢
          cases i with
          | zero => exact ⟨congrArg (fun a => [a]) (Option.some.inj hasked), rfl⟩
          | succ i => cases hasked
        · rw [hgeocoding] at hasked
          cases hasked
      rcases hone with ⟨hgeocoding, rfl⟩
      constructor
      · right
        simp [didGeocode, updateAddress, hgeocoding]
      · unfold Timely
        constructor
        · intro hfresh hsome
          rcases Option.isSome_iff_exists.1 hsome with ⟨placemark, hplacemark⟩
          rcases hfresh.current (by simp [didGeocode, updateAddress, hgeocoding]) placemark
            (by simpa [didGeocode, updateAddress] using hplacemark) with ⟨here, hhere, hlast⟩
          have hasked' : asked = here := by
            simp only [completed, hasked, Option.toList_some, List.map_singleton,
              List.getLast?_concat, Option.some.injEq, Prod.mk.injEq] at hlast
            exact hlast.1
          have hlocation : s.vc.location = some here := hhere
          rw [hasked, hlocation, hasked']
        · intro htimely
          refine ⟨by simp [didGeocode, updateAddress, hgeocoding], ?_⟩
          intro _ placemark hplacemark
          have hanswered : answeredPlacemark placemarks error = some placemark := hplacemark
          refine ⟨asked, ?_, ?_⟩
          · have hcurrent : s.vc.geocoding[0]? = s.vc.location := htimely (by simp [hanswered])
            rw [← hcurrent]
            exact hasked
          · simp [completed, hasked, hanswered]

theorem viewDidLoad_tracked (enabled : Bool) (status : CLAuthorizationStatus) :
    Tracked ⟨viewDidLoad enabled status, []⟩ := by
  have hstart : (viewDidLoad enabled status).isPerformingReverseGeocoding = false ∧
      (viewDidLoad enabled status).geocoding = [] ∧
      (viewDidLoad enabled status).placemark = none := by
    cases enabled <;> cases status <;> exact ⟨rfl, rfl, rfl⟩
  rcases hstart with ⟨hflag, hgeocoding, hplacemark⟩
  refine ⟨Or.inr ⟨hflag, hgeocoding⟩, by simp [hgeocoding], ?_⟩
  intro _ placemark hsome
  rw [hplacemark] at hsome
  cases hsome

/-- In every run at most one geocode is running and the placemark, when none is,
is the answer for the current location, exactly when every geocode that brought a
placemark found the location it was started for. -/
theorem along_fresh_iff (enabled : Bool) (status : CLAuthorizationStatus) (es : List Event) :
    logged.Along (fun _ _ s' => Fresh s') ⟨viewDidLoad enabled status, []⟩ es ↔
      logged.Along (fun s e _ => s.vc.Timely e) ⟨viewDidLoad enabled status, []⟩ es := by
  refine EventMachine.along_iff ?_ ?_ (viewDidLoad_tracked enabled status)
  · intro s e s' hstep h
    exact (h.step hstep).2
  · intro s e s' hstep hfresh h
    exact ⟨(h.step hstep).1, hfresh⟩

/-- The device moves while its address is looked up: the address that is shown is
that of the earlier position, and no geocode is running. -/
theorem moved_while_geocoding :
    ∃ s, logged.run ⟨viewDidLoad true .authorizedWhenInUse, []⟩
        [.didUpdateLocations [⟨.finite 1, .finite 0⟩],
          .didUpdateLocations [⟨.finite 2, .finite 0⟩],
          .geocoded 0 (some [cityPlacemark]) none] = some s ∧
      s.vc.geocoding = [] ∧ s.vc.location = some ⟨.finite 2, .finite 0⟩ ∧
      s.answers = [(⟨.finite 1, .finite 0⟩, some cityPlacemark)] ∧
      s.vc.label = some "11 Star Alley Melbourne VIC 3000 Australia" ∧ ¬ Fresh s := by
  refine ⟨_, rfl, rfl, rfl, rfl, by decide, ?_⟩
  intro hfresh
  rcases hfresh.current rfl cityPlacemark rfl with ⟨here, hhere, hlast⟩
  obtain rfl := Option.some.inj hhere
  revert hlast
  decide

end HomeVC

end FancyLife
