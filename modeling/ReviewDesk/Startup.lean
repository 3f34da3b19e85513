import ReviewDesk.Journal
import ReviewDesk.Settings

set_option autoImplicit false

namespace ReviewDesk

def startupEvents (settings : Settings) (settingsFileExists : Bool) : List Event :=
  if settings.hasKey then []
  else if settingsFileExists then [.keyMissing]
  else [.settingsFileMissing, .settingsFileHint]

end ReviewDesk
