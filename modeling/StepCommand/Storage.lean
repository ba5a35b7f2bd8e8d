import StepCommand.Disk

namespace StepCommand

-- What a run asks of the files. Nothing is known of a write that fails but what it leaves.
class Storage (σ : Type) where
  readText : σ → String → Except Disk.Cause String
  exists? : σ → String → Bool
  write : σ → String → ByteArray → Except Disk.Cause Unit × σ

instance : Storage Disk where
  readText := Disk.readText
  exists? := Disk.exists?
  write disk path content :=
    match disk.write path content with
    | .ok written => (.ok (), written)
    | .error cause => (.error cause, disk)

end StepCommand
