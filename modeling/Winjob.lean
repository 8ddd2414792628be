import Winjob.Jobapi
import Winjob.JobInfo
import Winjob.Limits
import Winjob.JobObject
import Winjob.Run
import Winjob.Apply
import Winjob.Queries
import Winjob.Loc
import Winjob.Catalogue
import Winjob.Readback
import Winjob.Notification
import Winjob.Subscription
import Winjob.Handles
import Winjob.Ownership
import Winjob.Launch
import Winjob.Client
