import CardHost.Bytes
import CardHost.Property
import CardHost.Request

namespace CardHost

inductive Refusal where
  | busy
  | readOnly (property : Property)
  | detached
  | abandoned
  deriving Repr, DecidableEq

def Refusal.message : Refusal → String
  | busy => "controller busy"
  | readOnly property => property.label ++ " is read-only"
  | detached => "controller detached"
  | abandoned => "request abandoned"

structure Rejection where
  reason : Refusal
  request : Request Bytes
  deriving Repr, DecidableEq

def Rejection.message (r : Rejection) : String := "request rejected: " ++ r.reason.message

inductive MappingError where
  | tooLarge (length max : Nat)
  | exhausted
  | alreadyMapped
  deriving Repr, DecidableEq

def MappingError.message : MappingError → String
  | tooLarge length max =>
    "mapping of " ++ toString length ++ " bytes exceeds the " ++ toString max ++ " byte limit"
  | exhausted => "no DMA mapping resources available"
  | alreadyMapped => "DMA map already loaded"

/-- A span of time in milliseconds, printed in the largest unit that leaves a whole part, with as few
decimals as it needs. -/
def renderMilliseconds (ms : Nat) : String :=
  if ms = 0 then "0ns"
  else if ms < 1000 then toString ms ++ "ms"
  else
    let fraction := ms % 1000
    let decimals :=
      if fraction = 0 then ""
      else if fraction % 100 = 0 then "." ++ toString (fraction / 100)
      else if fraction % 10 = 0 then
        "." ++ toString (fraction / 100) ++ toString (fraction / 10 % 10)
      else "." ++ toString (fraction / 100) ++ toString (fraction / 10 % 10) ++ toString (fraction % 10)
    toString (ms / 1000) ++ decimals ++ "s"

inductive SessionError where
  | refused (reason : Refusal)
  | command (opcode : UInt32) (error : CommandError)
  | neverReady
  | voltageMismatch
  | stalled (milliseconds : Nat)
  | unaligned (length : Nat)
  deriving Repr, DecidableEq

def SessionError.message : SessionError → String
  | refused reason => reason.message
  | command opcode error => "CMD" ++ toString opcode.toNat ++ " failed: " ++ error.message
  | neverReady => "card did not leave the busy state during initialisation"
  | voltageMismatch => "card did not echo the interface condition check pattern"
  | stalled ms => "request did not complete within " ++ renderMilliseconds ms
  | unaligned length => "transfer of " ++ toString length ++ " bytes is not a whole number of blocks"

inductive FailureKind where
  | notFound
  | isADirectory
  | notADirectory
  | timedOut
  | invalidInput
  | invalidFilename
  | unexpectedEof
  | writeZero
  | other
  deriving Repr, DecidableEq

inductive VolumeFault where
  | signature
  | sectorSizeNotPower
  | sectorSizeSmall
  | sectorSizeLarge
  | clusterSizeNotPower
  | noReservedSectors
  | noTables
  | rootEntriesGiven
  | noRootEntries
  | shortTotalGiven
  | totalSectors
  | noTableLength
  | version
  | totalTooSmall
  | backupOutside
  | informationOutside
  | kindMismatch
  | tooManyClusters
  | informationLead
  | informationStructure
  | informationTrail
  deriving Repr, DecidableEq

def VolumeFault.message : VolumeFault → String
  | signature => "Invalid boot sector signature"
  | sectorSizeNotPower => "invalid bytes_per_sector value in BPB (not power of two)"
  | sectorSizeSmall => "invalid bytes_per_sector value in BPB (value < 512)"
  | sectorSizeLarge => "invalid bytes_per_sector value in BPB (value > 4096)"
  | clusterSizeNotPower => "invalid sectors_per_cluster value in BPB (not power of two)"
  | noReservedSectors => "invalid reserved_sectors value in BPB"
  | noTables => "invalid fats value in BPB"
  | rootEntriesGiven => "Invalid root_entries value in BPB (should be zero for FAT32)"
  | noRootEntries => "Empty root directory region defined in FAT12/FAT16 BPB"
  | shortTotalGiven => "Invalid total_sectors_16 value in BPB (should be zero for FAT32)"
  | totalSectors => "Invalid BPB (total_sectors_16 or total_sectors_32 should be non-zero)"
  | noTableLength => "Invalid sectors_per_fat_32 value in BPB (should be non-zero for FAT32)"
  | version => "Unknown FS version"
  | totalTooSmall => "Invalid BPB (total_sectors field value is too small)"
  | backupOutside => "Invalid BPB (backup boot-sector not in a reserved region)"
  | informationOutside => "Invalid BPB (FSInfo sector not in a reserved region)"
  | kindMismatch =>
    "Invalid BPB (result of FAT32 determination from total number of clusters and " ++
      "sectors_per_fat_16 field differs)"
  | tooManyClusters => "Invalid BPB (too many clusters)"
  | informationLead => "invalid lead_sig in FsInfo sector"
  | informationStructure => "invalid struc_sig in FsInfo sector"
  | informationTrail => "invalid trail_sig in FsInfo sector"

inductive DeviceError where
  | session (error : SessionError)
  | readPastEnd
  | writePastEnd
  | noReadPhase
  | noWritePhase
  | seekBeforeStart
  | shortRead
  | shortWrite
  | seekOutside
  | seekOutsideRegion
  | volume (fault : VolumeFault)
  | noEntry
  | directory
  | notDirectory
  | noFile
  | fileIsDirectory
  | throughFile
  | nameTooLong
  | nameWithNul
  | fileFailure (text : String)
  deriving Repr, DecidableEq

namespace DeviceError

def kind : DeviceError → FailureKind
  | session (.command _ .timeout) | session (.stalled _) | session .neverReady => .timedOut
  | session (.unaligned _) => .invalidInput
  | session _ => .other
  | readPastEnd => .unexpectedEof
  | writePastEnd => .writeZero
  | noReadPhase | noWritePhase => .invalidInput
  | seekBeforeStart => .invalidInput
  | shortRead => .unexpectedEof
  | shortWrite => .writeZero
  | seekOutside | seekOutsideRegion => .invalidInput
  | volume _ => .other
  | noEntry | noFile => .notFound
  | directory | notDirectory => .other
  | fileIsDirectory => .isADirectory
  | throughFile => .notADirectory
  | nameTooLong => .invalidFilename
  | nameWithNul => .invalidInput
  | fileFailure _ => .other

def message : DeviceError → String
  | session error => error.message
  | readPastEnd => "read past end of card"
  | writePastEnd => "write past end of card"
  | noReadPhase => "no read phase armed"
  | noWritePhase => "no write phase armed"
  | seekBeforeStart => "seek before start of card"
  | shortRead => "failed to fill whole buffer"
  | shortWrite => "failed to write whole buffer"
  | seekOutside => "invalid seek"
  | seekOutsideRegion => "Seek to a negative offset"
  | volume fault => fault.message
  | noEntry => "No such file or directory"
  | directory => "Is a directory"
  | notDirectory => "Not a directory"
  | noFile => "No such file or directory (os error 2)"
  | fileIsDirectory => "Is a directory (os error 21)"
  | throughFile => "Not a directory (os error 20)"
  | nameTooLong => "File name too long (os error 36)"
  | nameWithNul => "file name contained an unexpected NUL byte"
  | fileFailure text => text

end DeviceError

end CardHost
