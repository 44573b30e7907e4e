import DeviceMemory.Layout
import DeviceMemory.Text.Hexadecimal
import DeviceMemory.Text.Quoted

/-!
# Handles of external resources

Memory that somebody else owns reaches an engine as a native handle: a machine
word that is not null. A `SharedHandle` says in addition what kind of object the
word stands for. Before such an object is accepted, its kind, its plane and the
size of the layout given for it are checked, in this order (`SharedHandle.admit`);
a bare pointer is checked for being null and for its size (`admitPointer`).
-/

namespace DeviceMemory

/-- What a handle stands for. -/
inductive HandleKind
  /-- An uninterpreted native word. -/
  | native
  /-- A pointer provided by the caller. -/
  | pointer
  /-- A buffer object. -/
  | buffer
  /-- An image object. -/
  | image
  /-- A pointer into unified memory. -/
  | unified
  /-- One plane of a display surface. -/
  | surface
  /-- A buffer object of the platform. -/
  | platformBuffer
  deriving DecidableEq, Repr

namespace HandleKind

/-- The kind as messages name it. -/
def name : HandleKind → String
  | native => "native"
  | pointer => "pointer"
  | buffer => "buffer"
  | image => "image"
  | unified => "unified memory"
  | surface => "surface"
  | platformBuffer => "platform buffer"

end HandleKind

/-- The number of planes that a surface has at most. -/
def maxSurfacePlanes : Nat := 3

/-- Why an external resource is not accepted. -/
inductive ImportError
  /-- The handle is null. -/
  | nullHandle (kind : HandleKind)
  /-- The handle is for an image and the layout is not, or the other way round. -/
  | layoutMismatch (kind : HandleKind) (isImage : Bool)
  /-- The size of the layout is no machine word. -/
  | layoutTooLarge (kind : HandleKind) (layout : Layout)
  /-- The surface has no such plane. -/
  | invalidPlane (plane : Nat)
  deriving DecidableEq, Repr

namespace ImportError

/-- The message for the caller. -/
def message : ImportError → String
  | nullHandle kind => "Can't import a null " ++ kind.name ++ " handle"
  | layoutMismatch kind isImage =>
    "Can't import a " ++ kind.name ++ " handle with a layout where is_image=" ++ toString isImage
  | layoutTooLarge kind layout =>
    "Can't import a " ++ kind.name ++ " handle with a layout of " ++ shapeText layout.shape ++ " " ++
      layout.element.name ++ " elements, its size overflows"
  | invalidPlane plane =>
    "Surface plane " ++ toString plane ++ " is out of range, surfaces have at most " ++
      toString maxSurfacePlanes ++ " planes"

/-- The cause with its fields, spelled out. -/
def describe : ImportError → String
  | nullHandle kind => "NullHandle \x7b kind: " ++ Text.quoted kind.name ++ " \x7d"
  | layoutMismatch kind isImage =>
    "LayoutMismatch \x7b kind: " ++ Text.quoted kind.name ++ ", is_image: " ++ toString isImage ++ " \x7d"
  | layoutTooLarge kind layout =>
    "LayoutTooLarge \x7b kind: " ++ Text.quoted kind.name ++ ", shape: " ++ shapeText layout.shape ++
      ", data_type: " ++ layout.element.name ++ " \x7d"
  | invalidPlane plane => "InvalidPlane \x7b plane: " ++ toString plane ++ " \x7d"

end ImportError

/-- A native handle: a word other than null. -/
structure Handle where
  /-- The word itself. -/
  raw : Nat
  /-- The word is not null. -/
  raw_ne_zero : raw ≠ 0
  deriving DecidableEq, Repr

namespace Handle

/-- The handle with a given word, reported as a null handle of `kind` if there is none. -/
def ofRaw (kind : HandleKind) (raw : Nat) : Except ImportError Handle :=
  if h : raw ≠ 0 then .ok ⟨raw, h⟩ else .error (.nullHandle kind)

/-- The handle with its word in hexadecimal. -/
def describe (h : Handle) : String := "NativeHandle(0x" ++ Text.hexadecimal h.raw ++ ")"

end Handle

/-- An object of somebody else, who also has to destroy it. -/
inductive SharedHandle
  /-- A buffer object. -/
  | buffer (handle : Handle)
  /-- An image object. -/
  | image (handle : Handle)
  /-- A pointer into unified memory. -/
  | unified (handle : Handle)
  /-- One plane of a display surface. -/
  | surface (handle : Handle) (plane : Nat)
  /-- A buffer object of the platform. -/
  | platformBuffer (handle : Handle)
  deriving DecidableEq, Repr

namespace SharedHandle

/-- The kind of the resource. -/
def kind : SharedHandle → HandleKind
  | buffer _ => .buffer
  | image _ => .image
  | unified _ => .unified
  | surface _ _ => .surface
  | platformBuffer _ => .platformBuffer

/-- The native handle. -/
def native : SharedHandle → Handle
  | buffer h | image h | unified h | surface h _ | platformBuffer h => h

/-- Whether the resource is like an image. -/
def isImage : SharedHandle → Bool
  | image _ | surface _ _ => true
  | buffer _ | unified _ | platformBuffer _ => false

/-- The plane, if it is one that no surface has. -/
def badPlane? : SharedHandle → Option Nat
  | surface _ plane => if maxSurfacePlanes ≤ plane then some plane else none
  | _ => none

/-- The resource with its fields, spelled out. -/
def describe : SharedHandle → String
  | buffer h => "Buffer(" ++ h.describe ++ ")"
  | image h => "Image(" ++ h.describe ++ ")"
  | unified h => "Unified(" ++ h.describe ++ ")"
  | surface h plane => "Surface \x7b surface: " ++ h.describe ++ ", plane: " ++ toString plane ++ " \x7d"
  | platformBuffer h => "PlatformBuffer(" ++ h.describe ++ ")"

end SharedHandle

/-- The size of a layout given for a resource of `kind`. -/
def admitSize (kind : HandleKind) (layout : Layout) : Except ImportError Nat :=
  match layout.byteSize? with
  | some size => .ok size
  | none => .error (.layoutTooLarge kind layout)

/-- The size of an external resource under `layout`, if it may be imported so. -/
def SharedHandle.admit (h : SharedHandle) (layout : Layout) : Except ImportError Nat :=
  if h.isImage ≠ layout.isImage then .error (.layoutMismatch h.kind layout.isImage)
  else match h.badPlane? with
    | some plane => .error (.invalidPlane plane)
    | none => admitSize h.kind layout

theorem admitSize_le {kind : HandleKind} {layout : Layout} {size : Nat}
    (h : admitSize kind layout = .ok size) : size ≤ maxWord := by
  unfold admitSize at h
  split at h
  · cases h
    exact Layout.byteSize?_le ‹_›
  · cases h

/-- The size of a resource that may be imported is a machine word. -/
theorem SharedHandle.admit_le {h : SharedHandle} {layout : Layout} {size : Nat}
    (ha : h.admit layout = .ok size) : size ≤ maxWord := by
  unfold SharedHandle.admit at ha
  split at ha
  · cases ha
  · split at ha
    · cases ha
    · exact admitSize_le ha

/-- The handle and the size of memory provided by the caller under `layout`. -/
def admitPointer (raw : Nat) (layout : Layout) : Except ImportError (Handle × Nat) :=
  match Handle.ofRaw .pointer raw with
  | .error e => .error e
  | .ok h =>
    match admitSize .pointer layout with
    | .error e => .error e
    | .ok size => .ok (h, size)

end DeviceMemory
