import NicKeeper.Api.Call
import NicKeeper.Json.MergePatch
import NicKeeper.Resource.Codec
import NicKeeper.Text.Pieces

/-!
# API servers

An API server keeps the objects of one namespace as JSON by name. Creating stores what was sent,
patching merges, deleting erases, and listing goes by a selector of labels (`ApiCall.value?`,
`ApiCall.effect`). A call can fail all the same, whether it has been performed or not
(`ApiCall.Serves`). An `ApiServer` is anything that keeps to this. When calls fail is its own
affair, and so is how it reads selectors.

`ApiServer.inMemory` has nothing but the objects, and refuses the calls that it is told to refuse.
-/

namespace NicKeeper

/-- What a selector makes of an object's labels. -/
abbrev SelectorReading := String → (String → Option String) → Bool

namespace ApiObject

def label? (object : Json) (key : String) : Option String := do
  let labels ← (← object.field? "metadata").field? "labels"
  Json.str? (← labels.field? key)

end ApiObject

namespace ApiCall

variable [TimeFormat]

/-- What objects have to say to a call, if they have an answer to it. -/
def value? (selects : SelectorReading) (objects : Dict Json) : (call : ApiCall) → Option call.Value
  | .get name =>
    match objects.get? name with
    | some object => (NicDevice.ofJson? object).map some
    | none => some none
  | .create device => NicDevice.ofJson? device.toJson
  | .patchStatus name patch => do NicDevice.ofJson? ((← objects.get? name).merge patch)
  | .list selector =>
    (objects.values.filter fun object => selects selector (ApiObject.label? object)).mapM
      NicDevice.ofJson?
  | .delete name => (objects.get? name).map fun _ => ()

/-- What a call leaves of objects when it is performed. -/
def effect (objects : Dict Json) : ApiCall → Dict Json
  | .get _ => objects
  | .create device => objects.insert device.name device.toJson
  | .patchStatus name patch =>
    match objects.get? name with
    | some object => objects.insert name (object.merge patch)
    | none => objects
  | .list _ => objects
  | .delete name => objects.erase name

/-- What can come of a call: it is performed and answered, or it fails, and then it can have been
performed or not. -/
inductive Serves (selects : SelectorReading) (objects : Dict Json) (call : ApiCall) :
    call.Answer → Dict Json → Prop where
  | answered {value : call.Value} (known : call.value? selects objects = some value) :
      Serves selects objects call (.ok value) (call.effect objects)
  | refused (failure : ApiFailure) : Serves selects objects call (.error failure) objects
  | lost (failure : ApiFailure) :
      Serves selects objects call (.error failure) (call.effect objects)

end ApiCall

variable [TimeFormat]

structure ApiServer (σ : Type) where
  handle : Handler apiService σ
  objects : σ → Dict Json
  selects : SelectorReading
  serves (call : ApiCall) (state : σ) :
    call.Serves selects (objects state) (handle call state).1 (objects (handle call state).2)

namespace ApiServer

/-- Reads a selector `key=value`. -/
def selectsEqual : SelectorReading := fun selector labels =>
  match Text.cutAt '=' selector.toList with
  | some (key, value) => labels (String.ofList key) = some (String.ofList value)
  | none => false

/-- The failure of a call that objects have no answer to. Some calls need an object that is
there. -/
def failure (objects : Dict Json) : ApiCall → ApiFailure
  | .patchStatus name _ | .delete name => ⟨if objects.contains name then none else some 404⟩
  | _ => ⟨none⟩

def inMemory (selects : SelectorReading) (refuses : ApiCall → Option ApiFailure) :
    ApiServer (Dict Json) where
  handle call objects :=
    match refuses call with
    | some failure => (.error failure, objects)
    | none =>
      match call.value? selects objects with
      | some value => (.ok value, call.effect objects)
      | none => (.error (failure objects call), call.effect objects)
  objects := id
  selects := selects
  serves call objects := by
    cases refuses call with
    | some failure => exact .refused failure
    | none =>
      dsimp only
      split
      · next known => exact .answered known
      · exact .lost _

end ApiServer

end NicKeeper
