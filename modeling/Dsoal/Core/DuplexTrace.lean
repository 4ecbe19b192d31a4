import Dsoal.Core.FullDuplex

/-!
# References in `DSFullDuplex::Initialize`

`DSFullDuplex::Initialize` with its output pointers, and what happens to the references to the
buffers: a local `ComPtr` obtains one, hands it to the caller, or releases it when the function
returns, in the reverse order of the declarations.  A handle that is set to null releases the
only reference to its object, and the object destroys its buffer whatever references there are.

`initializeCall_result` says that this is the function of `initializeFullDuplex`.
-/

namespace Dsoal

/-- The two objects a `DSFullDuplex` makes. -/
inductive Inner where
  | mDS8Handle | mDSCHandle
  deriving DecidableEq, Repr

/-- The local `ComPtr`s, in the order of their declaration. -/
inductive DuplexRef where
  | dsbuf | dscbuf | dsbuf8 | dscbuf8
  deriving DecidableEq, Repr

/-- The object that owns the buffer a reference is to. -/
def DuplexRef.owner : DuplexRef → Inner
  | dsbuf | dsbuf8 => .mDS8Handle
  | dscbuf | dscbuf8 => .mDSCHandle

/-- What happens to a reference or to an object. -/
inductive DuplexEvent where
  | obtain (r : DuplexRef)
  | release (r : DuplexRef)
  | hand (r : DuplexRef)
  | destroy (o : Inner)
  deriving DecidableEq, Repr

/-- How a call ends. -/
structure DuplexCall where
  hr : HResult
  /-- What is stored in `*dsBuffer8` and in `*dsCaptureBuffer8`. -/
  dsBuffer8 : Option DuplexRef := none
  dsCaptureBuffer8 : Option DuplexRef := none
  object : DSFullDuplex
  trace : List DuplexEvent

/-- The function returns a failure, with these local references. -/
def DuplexCall.fail (hr : HResult) (object : DSFullDuplex) (trace : List DuplexEvent)
    (locals : List DuplexRef) : DuplexCall where
  hr := hr
  object := object
  trace := trace ++ locals.reverse.map .release

/-- A handle is set to null; `created` says whether it was one. -/
def resetHandle (o : Inner) (created : Bool) : List DuplexEvent :=
  if created then [.destroy o] else []

/-- `DSFullDuplex::Initialize`. -/
def DSFullDuplex.initializeCall [Abi] (s : DSFullDuplex) (args : FullDuplexArgs) :
    Option DuplexCall :=
  if !args.dsCaptureBuffer8 ∨ !args.dsBuffer8 then some (.fail .invalidParam s [] [])
  else if s.mDS8Handle.isSome ∨ s.mDSCHandle.isSome then some (.fail .alreadyInitialized s [] [])
  else do
    let ds8 ← args.openDS8
    match ds8 with
    | .error hr =>
      some (.fail hr { s with mDS8Handle := none } (resetHandle .mDS8Handle args.ds8) [])
    | .ok ds8 =>
      match args.openDSC with
      | .error hr =>
        some (.fail hr { mDS8Handle := none, mDSCHandle := none }
          ([.obtain .dsbuf] ++ resetHandle .mDS8Handle true ++ resetHandle .mDSCHandle args.dsc)
          [.dsbuf])
      | .ok dsc =>
        match args.querySoundBuffer8 with
        | none =>
          some (.fail .noInterface {
              mDS8Handle := some { ds8 with mPrimaryBuffer := ds8.mPrimaryBuffer.release }
              mDSCHandle := some dsc }
            [.obtain .dsbuf, .obtain .dscbuf] [.dsbuf, .dscbuf])
        | some _ =>
          match (MultiObject.dscbuffer dsc.mIs8).queryInterface .iidDirectSoundCaptureBuffer8 with
          | none =>
            some (.fail .noInterface { mDS8Handle := some ds8, mDSCHandle := some dsc }
              [.obtain .dsbuf, .obtain .dscbuf, .obtain .dsbuf8] [.dsbuf, .dscbuf, .dsbuf8])
          | some _ =>
            some {
              hr := .ok
              dsBuffer8 := some .dsbuf8
              dsCaptureBuffer8 := some .dscbuf8
              object := { mDS8Handle := some ds8, mDSCHandle := some dsc }
              trace := [.obtain .dsbuf, .obtain .dscbuf, .obtain .dsbuf8, .obtain .dscbuf8,
                .hand .dsbuf8, .hand .dscbuf8, .release .dscbuf, .release .dsbuf] }

/-- The two buffers: whether the object that owns one is still there, and how many references
to it there are. -/
structure DuplexBuffers where
  alive : Inner → Bool := fun _ ↦ true
  refs : Inner → ℕ := fun _ ↦ 0

/-- What an event does; there is no `Release` of a buffer that has been destroyed. -/
def DuplexBuffers.step (s : DuplexBuffers) : DuplexEvent → Option DuplexBuffers
  | .obtain r => some { s with refs := Function.update s.refs r.owner (s.refs r.owner + 1) }
  | .hand _ => some s
  | .release r =>
    if s.alive r.owner ∧ 0 < s.refs r.owner then
      some { s with refs := Function.update s.refs r.owner (s.refs r.owner - 1) }
    else none
  | .destroy o => some { s with alive := Function.update s.alive o false }

end Dsoal
