import Communicatord.Numeric
import Communicatord.ValidName
import Communicatord.Tokenize
import Communicatord.Flag
import Communicatord.Store
import Communicatord.Load
import Communicatord.SaveRun
import Communicatord.FlagPath
import Communicatord.LoadFlags
import Communicatord.Reload
import Communicatord.Cache
