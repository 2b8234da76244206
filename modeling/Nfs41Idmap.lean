import Nfs41Idmap.CString
import Nfs41Idmap.ParseUint
import Nfs41Idmap.Config.Options
import Nfs41Idmap.Config.ParsePair
import Nfs41Idmap.Config.Load
import Nfs41Idmap.Config.Init
import Nfs41Idmap.Config.Write
import Nfs41Idmap.Cache
import Nfs41Idmap.Ldap.Filter
import Nfs41Idmap.Ldap.Query
import Nfs41Idmap.Cygwin
import Nfs41Idmap.Lookup
import Nfs41Idmap.Interface
import Nfs41Idmap.Create
import Nfs41Idmap.Concurrent.Model
import Nfs41Idmap.Concurrent.Fresh
import Nfs41Idmap.Cygwin.Accounts
import Nfs41Idmap.Concurrent.Unique
import Nfs41Idmap.Concurrent.Size
import Nfs41Idmap.Ldap.Directory
import Nfs41Idmap.Concurrent.Session
import Nfs41Idmap.Concurrent.Backends
import Nfs41Idmap.IdCompare
