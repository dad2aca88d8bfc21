import LoginReport.Proofs.Activity.Daemons

set_option autoImplicit false

/-!
# The idle time of a terminal

The number of a terminal is looked for in several places, and its idle time in one of them only. So
the idle time is that of the terminal exactly for a name whose terminal stands in this one place, or
that has no terminal while nothing else stands there.
-/

namespace LoginReport

/-- What a device is, whenever it was last read. -/
def Device.identity (device : Device) : Bool × Int := (device.isCharacter, device.number)

/-- The same devices stand at the same places, and may have been read at other times. -/
def Machine.SameDevices (machine other : Machine) : Prop :=
  ∀ path, (other.device path).map Device.identity = (machine.device path).map Device.identity

/-- The same devices, read at these times. -/
def Machine.readAt (machine : Machine) (accessed : Text → Binary64) : Machine :=
  { machine with
    device := fun path => (machine.device path).map fun device =>
      { device with accessed := accessed path } }

theorem Machine.device_readAt (machine : Machine) (accessed : Text → Binary64) (path : Text) :
    (machine.readAt accessed).device path =
      (machine.device path).map fun device => { device with accessed := accessed path } := rfl

theorem Machine.sameDevices_readAt (machine : Machine) (accessed : Text → Binary64) :
    machine.SameDevices (machine.readAt accessed) := by
  intro path
  rw [device_readAt, Option.map_map]
  rfl

namespace Terminal

/-- The one place in which the idle time of a name is looked for. -/
def idlePath (name : Text) : Text := "/dev/".toList ++ name

/-- The place from which the number of a name is taken. -/
def place? (machine : Machine) (name : Text) : Option Text :=
  if (absoluteDevice machine name).isSome then some name
  else (paths name).find? fun path => (characterDevice machine path).isSome

/-- The idle time is the time since the terminal was last read, and none without a terminal. -/
structure TellsIdle (machine : Machine) (name : Text) (now : Binary64) : Prop where
  found : ∀ path device, place? machine name = some path → machine.device path = some device →
    idleSeconds machine name now = (now.sub device.accessed).trunc
  missing : place? machine name = none → idleSeconds machine name now = .ok 0

/-- The terminal stands in the place of the idle time, or there is neither. -/
structure StandsInPlace (machine : Machine) (name : Text) : Prop where
  relative : absoluteDevice machine name = none
  place : (characterDevice machine (idlePath name)).isSome = true ∨
    machine.device (idlePath name) = none ∧
      ∀ path ∈ paths name, characterDevice machine path = none

variable {machine other : Machine} {name path : Text}

/-! ## The place of a number -/

theorem characterDevice_eq : characterDevice machine path =
    ((machine.device path).map Device.identity).bind fun identity =>
      if identity.1 then some identity.2 else none := by
  unfold characterDevice
  cases machine.device path <;> rfl

theorem absoluteDevice_eq : absoluteDevice machine name =
    if isAbsolute name then ((machine.device name).map Device.identity).map Prod.snd else none := by
  rw [absoluteDevice, Option.map_map]
  rfl

theorem place?_congr (h : machine.SameDevices other) : place? other name = place? machine name := by
  unfold place?
  simp only [absoluteDevice_eq, characterDevice_eq, h _]

theorem StandsInPlace.congr (hplace : StandsInPlace machine name)
    (h : machine.SameDevices other) : StandsInPlace other name where
  relative := by
    rw [absoluteDevice_eq, h, ← absoluteDevice_eq]
    exact hplace.relative
  place := by
    have hnone : other.device (idlePath name) = none ↔ machine.device (idlePath name) = none := by
      rw [← Option.map_eq_none_iff (f := Device.identity), h, Option.map_eq_none_iff]
    simp only [characterDevice_eq, h _, hnone]
    simp only [← characterDevice_eq]
    exact hplace.place

theorem characterDevice_eq_some_iff {number : Int} :
    characterDevice machine path = some number ↔ ∃ device, machine.device path = some device ∧
      device.isCharacter = true ∧ device.number = number := by
  rw [characterDevice]
  cases machine.device path with
  | none => simp
  | some device => simp

theorem findSome?_eq_bind_find? {places : List Text} :
    places.findSome? (characterDevice machine) =
      (places.find? fun path => (characterDevice machine path).isSome).bind
        (characterDevice machine) := by
  induction places with
  | nil => rfl
  | cons path places ih =>
    cases h : characterDevice machine path with
    | none => simp [h, ih]
    | some number => simp [h]

theorem number_of_place (h : place? machine name = some path) :
    ∃ device, machine.device path = some device ∧ number machine name = device.number := by
  unfold place? at h
  cases habsolute : absoluteDevice machine name with
  | some found =>
    rw [habsolute, Option.isSome_some, if_pos rfl] at h
    obtain rfl := Option.some.inj h
    obtain ⟨-, device, hdevice, rfl⟩ := absoluteDevice_eq_some_iff.mp habsolute
    exact ⟨device, hdevice, by rw [number, habsolute]⟩
  | none =>
    rw [habsolute, Option.isSome_none, if_neg Bool.false_ne_true] at h
    have hstands : (characterDevice machine path).isSome = true :=
      List.find?_some (p := fun path => (characterDevice machine path).isSome) h
    obtain ⟨found, hfound⟩ := Option.isSome_iff_exists.mp hstands
    obtain ⟨device, hdevice, -, rfl⟩ := characterDevice_eq_some_iff.mp hfound
    refine ⟨device, hdevice, ?_⟩
    rw [number, habsolute, findSome?_eq_bind_find?, h]
    exact congrArg (Option.getD · missing) hfound

theorem place?_eq_none_iff : place? machine name = none ↔
    absoluteDevice machine name = none ∧
      ∀ path ∈ paths name, characterDevice machine path = none := by
  unfold place?
  cases absoluteDevice machine name with
  | some number => simp
  | none => simp [List.find?_eq_none]

theorem number_of_no_place (h : place? machine name = none) : number machine name = missing := by
  obtain ⟨habsolute, hplaces⟩ := place?_eq_none_iff.mp h
  rw [number, habsolute, List.findSome?_eq_none_iff.mpr hplaces]
  rfl

/-- No name is the path at which its idle time is looked for, so only the first of its places is
that path. -/
theorem place?_eq_idlePath_iff : place? machine name = some (idlePath name) ↔
    absoluteDevice machine name = none ∧
      (characterDevice machine (idlePath name)).isSome = true := by
  have hname : name ≠ idlePath name := by
    intro h
    have hlength := congrArg List.length h
    rw [idlePath, List.length_append] at hlength
    have hfive : "/dev/".toList.length = 5 := rfl
    omega
  unfold place?
  cases absoluteDevice machine name with
  | some number => simp [hname]
  | none =>
    rw [Option.isSome_none, if_neg Bool.false_ne_true, eq_self, true_and]
    exact ⟨List.find?_some (p := fun path => (characterDevice machine path).isSome),
      List.find?_cons_of_pos (p := fun path => (characterDevice machine path).isSome)⟩

/-! ## The time at one place -/

theorem idleSeconds_of_device {device : Device} {now : Binary64}
    (h : machine.device (idlePath name) = some device) :
    idleSeconds machine name now = (now.sub device.accessed).trunc := by
  unfold idlePath at h
  rw [idleSeconds, h]

theorem idleSeconds_of_none {now : Binary64} (h : machine.device (idlePath name) = none) :
    idleSeconds machine name now = .ok 0 := by
  unfold idlePath at h
  rw [idleSeconds, h]

theorem StandsInPlace.tellsIdle (h : StandsInPlace machine name) (now : Binary64) :
    TellsIdle machine name now := by
  obtain hstands | ⟨hgone, hplaces⟩ := h.place
  · have hplace := place?_eq_idlePath_iff.mpr ⟨h.relative, hstands⟩
    constructor
    · intro path device hpath hdevice
      obtain rfl := Option.some.inj (hplace.symm.trans hpath)
      exact idleSeconds_of_device hdevice
    · intro hnone
      cases hplace.symm.trans hnone
  · have hplace := place?_eq_none_iff.mpr ⟨h.relative, hplaces⟩
    constructor
    · intro path device hpath _
      cases hplace.symm.trans hpath
    · intro _
      exact idleSeconds_of_none hgone

theorem age_zero : ((Binary64.ofInt 1).sub .zero).trunc = .ok 1 := by
  decide +kernel

theorem age_self : ((Binary64.ofInt 1).sub (.ofInt 1)).trunc = .ok 0 := by
  decide +kernel

/-- The epoch for the device at one place, and a second later for every other. -/
def epochAt (path other : Text) : Binary64 := if other = path then .zero else .ofInt 1

theorem idleSeconds_epochAt (h : path ≠ idlePath name) :
    idleSeconds (machine.readAt (epochAt path)) name (.ofInt 1) = .ok 0 := by
  cases hdevice : machine.device (idlePath name) with
  | none =>
    apply idleSeconds_of_none
    rw [Machine.device_readAt, hdevice, Option.map_none]
  | some device =>
    have hlate : (machine.readAt (epochAt path)).device (idlePath name) =
        some { device with accessed := .ofInt 1 } := by
      rw [Machine.device_readAt, hdevice, Option.map_some, epochAt, if_neg h.symm]
    rw [idleSeconds_of_device hlate, age_self]

section
variable (htells : ∀ other, machine.SameDevices other → ∀ now, TellsIdle other name now)
include htells

/-- The terminal is one second old and what stands in the place of the idle time is new. -/
theorem place_of_tells (h : place? machine name = some path) : path = idlePath name := by
  by_contra hpath
  have hsame := machine.sameDevices_readAt (epochAt path)
  obtain ⟨device, hdevice, -⟩ := number_of_place h
  have hread : (machine.readAt (epochAt path)).device path =
      some { device with accessed := .zero } := by
    rw [Machine.device_readAt, hdevice, Option.map_some, epochAt, if_pos rfl]
  have hidle := (htells _ hsame (.ofInt 1)).found path _ ((place?_congr hsame).trans h) hread
  rw [idleSeconds_epochAt hpath, age_zero] at hidle
  cases hidle

theorem no_device_of_tells (h : place? machine name = none) :
    machine.device (idlePath name) = none := by
  have hsame := machine.sameDevices_readAt fun _ => .zero
  have hidle := (htells _ hsame (.ofInt 1)).missing ((place?_congr hsame).trans h)
  cases hdevice : machine.device (idlePath name) with
  | none => rfl
  | some device =>
    have hread : (machine.readAt fun _ => .zero).device (idlePath name) =
        some { device with accessed := .zero } := by
      rw [Machine.device_readAt, hdevice, Option.map_some]
    rw [idleSeconds_of_device hread, age_zero] at hidle
    cases hidle

theorem standsInPlace_of_tells : StandsInPlace machine name := by
  cases h : place? machine name with
  | none =>
    obtain ⟨hrelative, hplaces⟩ := place?_eq_none_iff.mp h
    exact ⟨hrelative, .inr ⟨no_device_of_tells htells h, hplaces⟩⟩
  | some path =>
    obtain rfl := place_of_tells htells h
    obtain ⟨hrelative, hstands⟩ := place?_eq_idlePath_iff.mp h
    exact ⟨hrelative, .inl hstands⟩

end

/-- The number of a name is that of the device at its place, and without a place it has none. Its
idle time is that of the same device, whenever the devices were read and whatever the time is,
exactly where its terminal stands in the place of the idle time or there is neither. -/
theorem idle_of_terminal_iff (machine : Machine) (name : Text) :
    (∀ path, place? machine name = some path →
      ∃ device, machine.device path = some device ∧ number machine name = device.number) ∧
      (place? machine name = none → number machine name = missing) ∧
      ((∀ other, machine.SameDevices other → ∀ now, TellsIdle other name now) ↔
        StandsInPlace machine name) := by
  refine ⟨fun path => number_of_place, number_of_no_place, standsInPlace_of_tells, ?_⟩
  intro hstands other hsame now
  exact (hstands.congr hsame).tellsIdle now

theorem idle_of_open_terminal :
    StandsInPlace (Machine.bare.withTerminal 5) ['1'] ∧
      place? (Machine.bare.withTerminal 5) ['1'] = some "/dev/1".toList ∧
      number (Machine.bare.withTerminal 5) ['1'] = 5 ∧
      ∀ other, (Machine.bare.withTerminal 5).SameDevices other →
        ∀ now, TellsIdle other ['1'] now := by
  obtain ⟨hnumber, -, htells⟩ := idle_of_terminal_iff (Machine.bare.withTerminal 5) ['1']
  have hplace : place? (Machine.bare.withTerminal 5) ['1'] = some "/dev/1".toList := by decide
  have hstands : StandsInPlace (Machine.bare.withTerminal 5) ['1'] := ⟨rfl, .inl rfl⟩
  obtain ⟨device, hdevice, hfive⟩ := hnumber _ hplace
  obtain rfl := Option.some.inj hdevice
  exact ⟨hstands, hplace, hfive, htells.mpr hstands⟩

end Terminal

/-- A login without a terminal: the field of its name is empty. -/
def RecordFile.unnamedRecord : LoginRecord :=
  { bootRecord with
    kind := 7
    pid := 100
    line := zeroFilled [] }

def Machine.withUnnamedLogin : Machine :=
  { Machine.bare.withFiles [(RecordFile.defaultPath, RecordFile.unnamedRecord.encode)] with
    now := .ofInt 60
    device := fun path => if path = "/dev/".toList then some ⟨false, 0, .zero⟩ else none }

/-- The login without a terminal has the idle time of the directory of the devices. -/
theorem Terminal.idle_of_directory :
    ((SessionSource.ofMachine Machine.withUnnamedLogin).listing
        Machine.withUnnamedLogin).sessions =
          [RecordFile.session RecordFile.unnamedRecord.encode] ∧
      (RecordFile.session RecordFile.unnamedRecord.encode).tty = [] ∧
      place? Machine.withUnnamedLogin [] = none ∧
      number Machine.withUnnamedLogin [] = missing ∧
      idleSeconds Machine.withUnnamedLogin [] Machine.withUnnamedLogin.now = .ok 60 ∧
      ¬TellsIdle Machine.withUnnamedLogin [] Machine.withUnnamedLogin.now := by
  have hplace : place? Machine.withUnnamedLogin [] = none := by decide
  have hidle : idleSeconds Machine.withUnnamedLogin [] Machine.withUnnamedLogin.now = .ok 60 := by
    decide +kernel
  refine ⟨by decide +kernel, by decide +kernel, hplace, number_of_no_place hplace, hidle, ?_⟩
  intro htells
  exact absurd (hidle.symm.trans (htells.missing hplace)) (by decide)

end LoginReport
