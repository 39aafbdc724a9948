import CardHost.Failure

namespace CardHost

class Environment (m : Type → Type) where
  findVariable : String → m (Option String)
  readFile : String → m (Except DeviceError ByteArray)
  writeFile : String → ByteArray → m (Except DeviceError Unit)

end CardHost
