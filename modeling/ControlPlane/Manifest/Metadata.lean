import ControlPlane.Shape.Basic

/-!
# Object metadata

What every object of a cluster carries: a name, a namespace and labels.
-/

namespace ControlPlane

/-- Labels in the order in which they were given. -/
abbrev Labels := Entries String String

/-- The metadata of an object. -/
structure ObjectMeta where
  name : Option String := none
  namespaceName : Option String := none
  labels : Option Labels := none

namespace ObjectMeta

/-- The shape of metadata. -/
def shape : Shape ObjectMeta :=
  .record (.kube "ObjectMeta")
    (.optional (.one "name") (.text 0) <|
     .optional (.one "namespace") (.text 0) <|
     .optional (.one "labels") (.map (.text 0)) <|
     .nil)
    { pack := fun (name, namespaceName, labels, ()) => ⟨name, namespaceName, labels⟩
      unpack := fun m => (m.name, m.namespaceName, m.labels, ()) }

end ObjectMeta

end ControlPlane
