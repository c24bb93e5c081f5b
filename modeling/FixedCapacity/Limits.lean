/-
  FixedCapacity.Limits — the capacities that a product is built with.

  Text lengths are fixed by the protocol between the products; numbers of items are those
  of a desktop or server. `table` lists them all by name, and `textCapacity?` and
  `listing?` say what the named types are made of.
-/

import FixedCapacity.Error.Kind

namespace FixedCapacity.Limits

def providerIdLen : Nat := 40
def serviceIdLen : Nat := 40
def subjectIdLen : Nat := 40
def systemIdLen : Nat := 40
def layerIdLen : Nat := 40
def instanceIdLen : Nat := 40
def unitModelLen : Nat := 40
def nodeIdLen : Nat := 64
def nodeTypeLen : Nat := 64
def layerDigestLen : Nat := 128
def urlLen : Nat := 256
def filePathLen : Nat := 256
def vendorVersionLen : Nat := 20
def descriptionLen : Nat := 200
def errorMessageLen : Nat := 256
def partitionNameLen : Nat := 64
def partitionTypesLen : Nat := 32
def stateChecksumLen : Nat := 28
def fileChunkSize : Nat := 1024
def sha256Size : Nat := 32
def sha512Size : Nat := 64

def maxSubjectsSize : Nat := 4
def maxNumServices : Nat := 16
def maxNumLayers : Nat := 16
def maxNumInstances : Nat := 16
def maxNumPartitions : Nat := 4
def maxNumPartitionTypes : Nat := 4
def maxNumNodes : Nat := 4

/-- Every capacity by its name. -/
def table : List (String × Nat) :=
  [("PROVIDER_ID_LEN", providerIdLen), ("SERVICE_ID_LEN", serviceIdLen),
   ("SUBJECT_ID_LEN", subjectIdLen), ("SYSTEM_ID_LEN", systemIdLen),
   ("LAYER_ID_LEN", layerIdLen), ("INSTANCE_ID_LEN", instanceIdLen),
   ("UNIT_MODEL_LEN", unitModelLen), ("NODE_ID_LEN", nodeIdLen),
   ("NODE_TYPE_LEN", nodeTypeLen), ("LAYER_DIGEST_LEN", layerDigestLen), ("URL_LEN", urlLen),
   ("FILE_PATH_LEN", filePathLen), ("VENDOR_VERSION_LEN", vendorVersionLen),
   ("DESCRIPTION_LEN", descriptionLen), ("ERROR_MESSAGE_LEN", errorMessageLen),
   ("PARTITION_NAME_LEN", partitionNameLen), ("PARTITION_TYPES_LEN", partitionTypesLen),
   ("STATE_CHECKSUM_LEN", stateChecksumLen), ("FILE_CHUNK_SIZE", fileChunkSize),
   ("SHA256_SIZE", sha256Size), ("SHA512_SIZE", sha512Size),
   ("MAX_SUBJECTS_SIZE", maxSubjectsSize), ("MAX_NUM_SERVICES", maxNumServices),
   ("MAX_NUM_LAYERS", maxNumLayers), ("MAX_NUM_INSTANCES", maxNumInstances),
   ("MAX_NUM_PARTITIONS", maxNumPartitions),
   ("MAX_NUM_PARTITION_TYPES", maxNumPartitionTypes), ("MAX_NUM_NODES", maxNumNodes)]

/-- The string types by name, with their capacities. -/
def texts : List (String × Nat) :=
  [("ProviderId", providerIdLen), ("ServiceId", serviceIdLen), ("SubjectId", subjectIdLen),
   ("SystemId", systemIdLen), ("LayerId", layerIdLen), ("InstanceId", instanceIdLen),
   ("UnitModel", unitModelLen), ("NodeId", nodeIdLen), ("NodeType", nodeTypeLen),
   ("LayerDigest", layerDigestLen), ("Url", urlLen), ("FilePath", filePathLen),
   ("VendorVersion", vendorVersionLen), ("Description", descriptionLen),
   ("ErrorMessage", errorMessageLen), ("PartitionName", partitionNameLen),
   ("PartitionType", partitionTypesLen), ("StateChecksum", stateChecksumLen)]

/-- What the elements of a list type are. -/
inductive Element where
  | byte
  | text (capacity : Nat)
  deriving DecidableEq, Repr

/-- The list types by name, with their elements and capacities. -/
def lists : List (String × Element × Nat) :=
  [("Sha256Digest", .byte, sha256Size), ("Sha512Digest", .byte, sha512Size),
   ("SubjectIdList", .text subjectIdLen, maxSubjectsSize),
   ("InstanceIdList", .text instanceIdLen, maxNumInstances),
   ("NodeIdList", .text nodeIdLen, maxNumNodes),
   ("PartitionTypeList", .text partitionTypesLen, maxNumPartitionTypes)]

def textCapacity? (name : String) : Option Nat := texts.lookup name

def listing? (name : String) : Option (Element × Nat) := lists.lookup name

/-- Holds a count against a limit. -/
def check (count limit : Nat) : Except Error.Kind Unit :=
  if count > limit then .error .noMemory else .ok ()

end FixedCapacity.Limits
