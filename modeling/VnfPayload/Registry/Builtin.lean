import VnfPayload.Registry

/-!
# Built-in templates

The templates for the interface versions 2.4.1 and 3.5.1.
-/

namespace VnfPayload.Registry

/-- The older interface version, which is also the default. -/
def version2 : String := "2.4.1"

/-- The newer interface version. -/
def version3 : String := "3.5.1"

/-- A field that is always there, as a mapping. -/
def mapping (name : String) : FieldRule := .container name .mapping

/-- A field that is always there, as a sequence. -/
def sequence (name : String) : FieldRule := .container name .sequence

/-- A field for the property of the same name, if it has a value. -/
def optional (name : String) : FieldRule := .optional name none

/-- A field for the property of the same name, which has to have a value. -/
def required (name : String) : FieldRule := .required name none

/-- A field for a property of another name, which has to have a value. -/
def requiredFrom (name key : String) : FieldRule := .required name (some (.property key))

/-- The prefixes of operations that take additional parameters only. -/
def parameterPrefixes : List String :=
  ["additionalParams."]

/-- The prefixes of operations that concern links and connections. -/
def connectivityPrefixes : List String :=
  ["extVirtualLinks.", "extManagedVirtualLinks.", "vimConnectionInfo.",
    "additionalParams.", "extensions.", "vnfConfigurableProperties."]

/-- The templates of the older interface version. -/
def templates2 : List Template :=
  [{ operation := .create
     version := version2
     fields := [required "vnfdId", optional "vnfInstanceName",
       .optional "vnfInstanceDescription" (some .description), mapping "additionalParams"]
     prefixes := parameterPrefixes },
   { operation := .instantiate
     version := version2
     fields := [required "flavourId", optional "instantiationLevelId",
       sequence "extVirtualLinks", sequence "extManagedVirtualLinks",
       sequence "vimConnectionInfo", optional "localizationLanguage",
       mapping "additionalParams"]
     prefixes := ["extVirtualLinks.", "extManagedVirtualLinks.", "vimConnectionInfo.",
       "additionalParams."] },
   { operation := .heal
     version := version2
     fields := [mapping "additionalParams", optional "cause"]
     prefixes := parameterPrefixes },
   { operation := .scale
     version := version2
     fields := [mapping "additionalParams", requiredFrom "type" "scaleType",
       requiredFrom "aspectId" "scaleAspectId", optional "numberOfSteps"]
     prefixes := parameterPrefixes }]

/-- The templates of the newer interface version, which has three more operations. -/
def templates3 : List Template :=
  [{ operation := .create
     version := version3
     fields := [mapping "additionalParams", mapping "metadata", required "vnfdId",
       optional "vnfInstanceName", .optional "vnfInstanceDescription" (some .description)]
     prefixes := ["additionalParams.", "metadata."] },
   { operation := .instantiate
     version := version3
     fields := [required "flavourId", optional "instantiationLevelId",
       sequence "extVirtualLinks", sequence "extManagedVirtualLinks",
       mapping "vimConnectionInfo", optional "localizationLanguage",
       mapping "additionalParams", mapping "extensions",
       mapping "vnfConfigurableProperties"]
     prefixes := connectivityPrefixes },
   { operation := .heal
     version := version3
     fields := [mapping "additionalParams", optional "cause"]
     prefixes := parameterPrefixes },
   { operation := .scale
     version := version3
     fields := [mapping "additionalParams", requiredFrom "type" "scaleType",
       requiredFrom "aspectId" "scaleAspectId", optional "numberOfSteps"]
     prefixes := parameterPrefixes },
   { operation := .changeCurrentVnfPkg
     version := version3
     fields := [sequence "extVirtualLinks", mapping "vimConnectionInfo",
       sequence "extManagedVirtualLinks", mapping "additionalParams",
       mapping "vnfConfigurableProperties", mapping "extensions", required "vnfdId"]
     prefixes := connectivityPrefixes },
   { operation := .changeExtVnfConnectivity
     version := version3
     fields := [sequence "extVirtualLinks", mapping "vimConnectionInfo",
       mapping "additionalParams"]
     prefixes := ["additionalParams.", "extVirtualLinks.", "vimConnectionInfo."] },
   { operation := .changeVnfFlavour
     version := version3
     fields := [sequence "extVirtualLinks", sequence "extManagedVirtualLinks",
       mapping "vimConnectionInfo", mapping "additionalParams", mapping "extensions",
       mapping "vnfConfigurableProperties", requiredFrom "newFlavourId" "flavourId",
       optional "instantiationLevelId", optional "localizationLanguage"]
     prefixes := connectivityPrefixes }]

/-- The registry of all built-in templates. -/
def builtin : Registry :=
  empty.insertAll (templates2 ++ templates3)

end VnfPayload.Registry
