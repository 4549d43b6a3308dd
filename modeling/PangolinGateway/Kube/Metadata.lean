import PangolinGateway.Kube.Objects

/-! # Metadata stamped on every object the controller writes -/
namespace PangolinGateway
set_option autoImplicit false

/-- Labels applied to every object the controller writes. -/
def ownerLabels (cfg : Config) (_name : String) : Map String :=
  ((∅ : Map String).insert cfg.managedLabelKey cfg.managedLabelValue).insert
    cfg.instanceLabelKey cfg.instanceLabelValue

/-- The controller's labels and the managed annotation, plus the caller's extras, which win over
the managed annotation if they have its key. -/
def managedMetadataWith (cfg : Config) (name : String) (labels : Map String)
    (extraAnnotations : Map String) : ObjectMeta where
  name := some name
  ns := some cfg.ns
  labels := some labels
  annotations := some (extraAnnotations.toList.foldl (fun m (k, v) => m.insert k v)
    ((∅ : Map String).insert cfg.managedAnnotationKey cfg.managedAnnotationValue))

def managedMetadata (cfg : Config) (name : String) (labels : Map String) : ObjectMeta :=
  managedMetadataWith cfg name labels ∅

@[simp] theorem managedMetadataWith_name (cfg : Config) (name : String) (labels extra : Map String) :
    (managedMetadataWith cfg name labels extra).name = some name := rfl

@[simp] theorem managedMetadataWith_labels (cfg : Config) (name : String)
    (labels extra : Map String) : (managedMetadataWith cfg name labels extra).labels = some labels :=
  rfl

@[simp] theorem managedMetadata_name (cfg : Config) (name : String) (labels : Map String) :
    (managedMetadata cfg name labels).name = some name := rfl

@[simp] theorem managedMetadata_labels (cfg : Config) (name : String) (labels : Map String) :
    (managedMetadata cfg name labels).labels = some labels := rfl

/-! ## Matching the selector of the controller -/

/-- A label selector as the API server applies it: every requirement holds. -/
def ObjectMeta.matchesSelector (m : ObjectMeta) (selector : Selector) : Bool :=
  selector.all fun (k, v) => (m.labels.bind fun labels => labels[k]?) == some v

abbrev ObjectMeta.owned (cfg : Config) (m : ObjectMeta) : Bool :=
  m.matchesSelector cfg.managedSelector

end PangolinGateway
