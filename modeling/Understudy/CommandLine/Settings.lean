import Understudy.CommandLine.Parser
import Understudy.Settings.Source

/-!
# Settings from the command line

`CommandLine.Given.settings` starts from the settings file, or from the standard settings, and lets the options override
them.
-/

namespace Understudy

namespace CommandLine

namespace Given

def baseSettings (g : Given) (files : FileStore) : Except SettingsError ServerSettings :=
  match g.value? .config with
  | some path => (ServerSettings.ofFile files path).mapError (.inFile path)
  | none => pure .standard

def proxySettings (g : Given) (proxy : Option ProxySettings) : Option ProxySettings :=
  let proxy := match g.value? .proxyUrl with
    | some url => some { proxy.getD (.forUrl url) with url }
    | none => proxy
  proxy.map fun p =>
    { p with
      saveMapping := p.saveMapping || g.has .saveMapping
      saveMappingToFile := p.saveMappingToFile || g.has .saveMappingToFile }

def override (g : Given) (s : ServerSettings) : ServerSettings :=
  { s with
    port := ((g.value? .port).bind portOf?).getD s.port
    host := (g.value? .host).getD s.host
    mappingsDirectory := (g.value? .mappingsDir).getD s.mappingsDirectory
    allowPartialMapping := s.allowPartialMapping || g.has .allowPartialMapping
    readStaticMappings := s.readStaticMappings || g.has .readStaticMappings
    startAdminInterface := s.startAdminInterface && !g.has .noAdmin
    proxy := g.proxySettings s.proxy }

def settings (g : Given) (files : FileStore) : Except SettingsError ServerSettings := do
  let base ← g.baseSettings files
  let s := g.override base
  if s.proxy.isNone && (g.has .saveMapping || g.has .saveMappingToFile) then throw .nothingForwarded
  s.checked

def logFormat (g : Given) : String := (g.value? .logFormat).getD "text"

end Given

end CommandLine

end Understudy
